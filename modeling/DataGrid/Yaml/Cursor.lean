import DataGrid.Error
import DataGrid.Text.Hex

/-!
A place in a YAML text: what is left of it, and the line and column reached. The end of the text reads as
the character zero, which no text holds.
-/

namespace DataGrid.Yaml

def isReadable (c : Char) : Bool :=
  let n := c.toNat
  n = 9 || n = 0xA || n = 0xD || (0x20 ≤ n && n ≤ 0x7E) || n = 0x85 || (0xA0 ≤ n && n ≤ 0xFFFD) || 0x10000 ≤ n

def unifyLines : List Char → List Char
  | '\r' :: '\n' :: rest => '\n' :: unifyLines rest
  | '\r' :: rest => '\n' :: unifyLines rest
  | c :: rest => c :: unifyLines rest
  | [] => []

def nul : Char := '\x00'

def isBreak (c : Char) : Bool := c = '\n' || c = '\x85' || c = '\u2028' || c = '\u2029'

def isLineEnd (c : Char) : Bool := c = nul || isBreak c

def isSpaceOrEnd (c : Char) : Bool := c = ' ' || isLineEnd c

def isGap (c : Char) : Bool := c = '\t' || isSpaceOrEnd c

def isNameChar (c : Char) : Bool := c.isAlphanum || c = '-' || c = '_'

def badToken : Error := .malformedYaml .token

structure Cursor where
  rest : List Char
  index : Nat := 0
  line : Nat := 0
  column : Nat := 0

namespace Cursor

def peek (cursor : Cursor) (ahead : Nat) : Char := cursor.rest.getD ahead nul

def here (cursor : Cursor) : Char := cursor.peek 0

def next (cursor : Cursor) : Cursor :=
  match cursor.rest with
  | [] => cursor
  | c :: rest =>
    if isBreak c then ⟨rest, cursor.index + 1, cursor.line + 1, 0⟩
    else ⟨rest, cursor.index + 1, cursor.line, if c = '\uFEFF' then cursor.column else cursor.column + 1⟩

def advance : Nat → Cursor → Cursor
  | 0, cursor => cursor
  | n + 1, cursor => advance n cursor.next

def run (kind : Char → Bool) (cursor : Cursor) : List Char × Cursor :=
  let taken := cursor.rest.takeWhile kind
  (taken, advance taken.length cursor)

def skip (kind : Char → Bool) (cursor : Cursor) : Cursor := (cursor.run kind).2

/-- Goes past the end of a line; the answer is how it counts in a text. -/
def lineBreak (cursor : Cursor) : List Char × Cursor :=
  let c := cursor.here
  if c = '\n' || c = '\x85' then (['\n'], cursor.next)
  else if c = '\u2028' || c = '\u2029' then ([c], cursor.next)
  else ([], cursor)

def atMark (cursor : Cursor) (mark : Char) : Bool :=
  cursor.rest.take 3 == [mark, mark, mark] && isGap (cursor.peek 3)

def atSeparator (cursor : Cursor) : Bool := cursor.atMark '-' || cursor.atMark '.'

def require (kind : Char → Bool) (cursor : Cursor) : Except Error Unit :=
  if kind cursor.here then .ok () else .error badToken

/-- Goes past spaces, a comment and the end of the line; anything else is refused. -/
def restOfLine (cursor : Cursor) : Except Error Cursor := do
  let cursor := cursor.skip (· = ' ')
  let cursor := if cursor.here = '#' then cursor.skip fun c => !isLineEnd c else cursor
  cursor.require isLineEnd
  return cursor.lineBreak.2

end Cursor

end DataGrid.Yaml
