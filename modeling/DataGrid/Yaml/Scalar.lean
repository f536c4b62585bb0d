import DataGrid.Text.Encoding
import DataGrid.Text.Hex
import DataGrid.Yaml.Cursor

/-!
The texts of scalars: between quotes, plain, and in blocks. Lines are folded into one text: a line end
between two lines becomes a space, and further ones stay.
-/

namespace DataGrid.Yaml

open Cursor

def escapeOf? (c : Char) : Option Char :=
  match c with
  | '0' => some '\x00'
  | 'a' => some '\x07'
  | 'b' => some '\x08'
  | 't' | '\t' => some '\t'
  | 'n' => some '\n'
  | 'v' => some '\x0b'
  | 'f' => some '\x0c'
  | 'r' => some '\r'
  | 'e' => some '\x1b'
  | ' ' => some ' '
  | '"' => some '"'
  | '\\' => some '\\'
  | '/' => some '/'
  | 'N' => some '\x85'
  | '_' => some '\xa0'
  | 'L' => some '\u2028'
  | 'P' => some '\u2029'
  | _ => none

/-- The number of digits after a letter that gives a character by its number. -/
def escapeSize? (c : Char) : Option Nat :=
  match c with
  | 'x' => some 2
  | 'u' => some 4
  | 'U' => some 8
  | _ => none

/-- The line ends after the first one, in a text between quotes; `fuel` bounds what is left. -/
def quotedBreaks : (fuel : Nat) → Cursor → Except Error (List Char × Cursor)
  | 0, cursor => .ok ([], cursor)
  | fuel + 1, cursor => do
    if cursor.atSeparator then throw badToken
    let cursor := cursor.skip fun c => c = ' ' || c = '\t'
    if isBreak cursor.here then
      let (first, cursor) := cursor.lineBreak
      let (others, cursor) ← quotedBreaks fuel cursor
      return (first ++ others, cursor)
    else return ([], cursor)

/-- Blanks inside a text between quotes: themselves, or what a line end comes to. -/
def quotedBlanks (fuel : Nat) (cursor : Cursor) : Except Error (List Char × Cursor) := do
  let (blanks, cursor) := cursor.run fun c => c = ' ' || c = '\t'
  if cursor.here = nul then throw badToken
  else if isBreak cursor.here then
    let (first, cursor) := cursor.lineBreak
    let (others, cursor) ← quotedBreaks fuel cursor
    let start := if first ≠ ['\n'] then first else if others.isEmpty then [' '] else []
    return (start ++ others, cursor)
  else return (blanks, cursor)

def escape (fuel : Nat) (cursor : Cursor) : Except Error (List Char × Cursor) :=
  let c := cursor.here
  match escapeOf? c, escapeSize? c with
  | some plain, _ => .ok ([plain], cursor.next)
  | none, some size =>
    let digits := cursor.next.rest.take size
    if digits.length = size && digits.all Text.isHexDigit then
      let n := Text.hexNumber digits
      if n < 0x110000 then .ok ([Text.charOfUnit n], advance size cursor.next)
      else if 0x80000000 ≤ n then .error (.tooLarge "Python int too large to convert to C int")
      else .error (.badValue "chr() arg not in range(0x110000)")
    else .error badToken
  | none, none => do
    if !isBreak c then throw badToken
    let (others, cursor) ← quotedBreaks fuel cursor.lineBreak.2
    return (others, cursor)

def endsQuotedRun (c : Char) : Bool := c = '\'' || c = '"' || c = '\\' || isGap c

def quotedRest (quote : Char) : (fuel : Nat) → Cursor → Except Error (List Char × Cursor)
  | 0, _ => .error badToken
  | fuel + 1, cursor => do
    let (chars, cursor) := cursor.run fun c => !endsQuotedRun c
    let c := cursor.here
    if quote = '\'' && c = '\'' && cursor.peek 1 = '\'' then
      let (others, cursor) ← quotedRest quote fuel (advance 2 cursor)
      return (chars ++ '\'' :: others, cursor)
    else if c = quote then return (chars, cursor.next)
    else if c = '\'' || c = '"' || (quote = '\'' && c = '\\') then
      let (others, cursor) ← quotedRest quote fuel cursor.next
      return (chars ++ c :: others, cursor)
    else if c = '\\' then
      let (escaped, cursor) ← escape fuel cursor.next
      let (others, cursor) ← quotedRest quote fuel cursor
      return (chars ++ escaped ++ others, cursor)
    else
      let (blanks, cursor) ← quotedBlanks fuel cursor
      let (others, cursor) ← quotedRest quote fuel cursor
      return (chars ++ blanks ++ others, cursor)

def quotedScalar (cursor : Cursor) : Except Error (List Char × Cursor) :=
  quotedRest cursor.here (cursor.rest.length + 1) cursor.next

/-- A run of a plain text: up to a gap, a colon that ends a key, or a sign of a flow collection. -/
def plainRun (flow : Bool) : List Char → List Char
  | [] => []
  | c :: rest =>
    let after := rest.headD nul
    let endsKey := c = ':' && (isGap after || (flow && [',', '[', ']', '\x7b', '\x7d'].contains after))
    if isGap c || endsKey || (flow && [',', '?', '[', ']', '\x7b', '\x7d'].contains c) then []
    else c :: plainRun flow rest

structure PlainGap where
  /-- What the gap comes to; empty when the text ends. -/
  chars : List Char
  broken : Bool
  cursor : Cursor

/-- The line ends after the first one; none when a document ends there. -/
def plainBreaks : (fuel : Nat) → Cursor → Option (List Char) × Cursor
  | 0, cursor => (some [], cursor)
  | fuel + 1, cursor =>
    if cursor.here = ' ' then plainBreaks fuel cursor.next
    else if isBreak cursor.here then
      let (first, cursor) := cursor.lineBreak
      if cursor.atSeparator then (none, cursor)
      else
        let (others, cursor) := plainBreaks fuel cursor
        (others.map (first ++ ·), cursor)
    else (some [], cursor)

def plainGap (cursor : Cursor) : PlainGap :=
  let (spaces, cursor) := cursor.run (· = ' ')
  if isBreak cursor.here then
    let (first, cursor) := cursor.lineBreak
    if cursor.atSeparator then ⟨[], true, cursor⟩
    else
      match plainBreaks (cursor.rest.length + 1) cursor with
      | (none, cursor) => ⟨[], true, cursor⟩
      | (some others, cursor) =>
        let start := if first ≠ ['\n'] then first else if others.isEmpty then [' '] else []
        ⟨start ++ others, true, cursor⟩
  else ⟨spaces, false, cursor⟩

/-- A plain text: the place after it, and whether it ended at a line end. `indent` is the least column
of its further lines outside flow collections. -/
def plainFrom (flow : Bool) (indent : Int) : (fuel : Nat) → (gap : List Char) → (broken : Bool) → Cursor →
    List Char × Bool × Cursor
  | 0, _, broken, cursor => ([], broken, cursor)
  | fuel + 1, gap, broken, cursor =>
    let chars := if cursor.here = '#' then [] else plainRun flow cursor.rest
    if chars.isEmpty then ([], broken, cursor)
    else
      let after := plainGap (advance chars.length cursor)
      if after.chars.isEmpty || after.cursor.here = '#' || (!flow && after.cursor.column < indent) then
        (gap ++ chars, after.broken, after.cursor)
      else
        let (others, broken, cursor) := plainFrom flow indent fuel after.chars after.broken after.cursor
        (gap ++ chars ++ others, broken, cursor)

def plainScalar (flow : Bool) (indent : Int) (cursor : Cursor) : List Char × Bool × Cursor :=
  plainFrom flow indent (cursor.rest.length + 1) [] false cursor

inductive Chomping where
  | strip | clip | keep
  deriving DecidableEq

def chompingOf? (c : Char) : Option Chomping :=
  if c = '+' then some .keep else if c = '-' then some .strip else none

def depthOf? (c : Char) : Except Error (Option Nat) :=
  if !c.isDigit then .ok none else if c = '0' then .error badToken else .ok (some (c.toNat - 0x30))

def blockSigns (cursor : Cursor) : Except Error (Chomping × Option Nat × Cursor) := do
  let (chomping, depth, cursor) ← match chompingOf? cursor.here with
    | some chomping => do
      let cursor := cursor.next
      match ← depthOf? cursor.here with
      | some depth => pure (chomping, some depth, cursor.next)
      | none => pure (chomping, none, cursor)
    | none => do
      match ← depthOf? cursor.here with
      | some depth =>
        let cursor := cursor.next
        match chompingOf? cursor.here with
        | some chomping => pure (chomping, some depth, cursor.next)
        | none => pure (Chomping.clip, some depth, cursor)
      | none => pure (Chomping.clip, none, cursor)
  cursor.require isSpaceOrEnd
  return (chomping, depth, cursor)

/-- Empty lines and the spaces before the first line of a block, with the deepest column reached. -/
def blockStart : (fuel : Nat) → (deepest : Nat) → Cursor → List Char × Nat × Cursor
  | 0, deepest, cursor => ([], deepest, cursor)
  | fuel + 1, deepest, cursor =>
    if cursor.here = ' ' then
      let cursor := cursor.next
      blockStart fuel (max deepest cursor.column) cursor
    else if isBreak cursor.here then
      let (first, cursor) := cursor.lineBreak
      let (others, deepest, cursor) := blockStart fuel deepest cursor
      (first ++ others, deepest, cursor)
    else ([], deepest, cursor)

def toColumn (column : Nat) (cursor : Cursor) : Cursor :=
  let spaces := (cursor.rest.takeWhile (· = ' ')).length
  advance (min spaces (column - cursor.column)) cursor

def blockBreaks (indent : Nat) : (fuel : Nat) → Cursor → List Char × Cursor
  | 0, cursor => ([], cursor)
  | fuel + 1, cursor =>
    let cursor := toColumn indent cursor
    if isBreak cursor.here then
      let (first, cursor) := cursor.lineBreak
      let (others, cursor) := blockBreaks indent fuel cursor
      (first ++ others, cursor)
    else ([], cursor)

def isBlankChar (c : Char) : Bool := c = ' ' || c = '\t'

/-- The lines of a block. `breaks` are the empty lines before the next one; the answer ends with the line
end of the last line and the empty lines after it. -/
def blockLines (folded : Bool) (indent : Nat) : (fuel : Nat) → (breaks : List Char) → Cursor →
    List Char × List Char × List Char × Cursor
  | 0, breaks, cursor => ([], [], breaks, cursor)
  | fuel + 1, breaks, cursor =>
    if cursor.column = indent && cursor.here ≠ nul then
      let flush := !isBlankChar cursor.here
      let (line, cursor) := cursor.run fun c => !isLineEnd c
      let (lineEnd, cursor) := cursor.lineBreak
      let (after, cursor) := blockBreaks indent (cursor.rest.length + 1) cursor
      if cursor.column = indent && cursor.here ≠ nul then
        let joint := if folded && lineEnd = ['\n'] && flush && !isBlankChar cursor.here then
            if after.isEmpty then [' '] else []
          else lineEnd
        let (others, last, final, cursor) := blockLines folded indent fuel after cursor
        (breaks ++ line ++ joint ++ others, last, final, cursor)
      else (breaks ++ line, lineEnd, after, cursor)
    else ([], [], breaks, cursor)

/-- A block, from the sign that opens it. `indent` is that of the collection around it. -/
def blockScalar (indent : Int) (cursor : Cursor) : Except Error (List Char × Cursor) := do
  let folded := cursor.here = '>'
  let (chomping, depth, cursor) ← blockSigns cursor.next
  let cursor ← cursor.restOfLine
  let least := (max (indent + 1) 1).toNat
  let fuel := cursor.rest.length + 1
  let (column, breaks, cursor) := match depth with
    | none =>
      let (breaks, deepest, cursor) := blockStart fuel 0 cursor
      (max least deepest, breaks, cursor)
    | some depth =>
      let column := least + depth - 1
      let (breaks, cursor) := blockBreaks column fuel cursor
      (column, breaks, cursor)
  let (content, last, final, cursor) := blockLines folded column fuel breaks cursor
  let ending := match chomping with
    | .strip => []
    | .clip => last
    | .keep => last ++ final
  return (content ++ ending, cursor)

end DataGrid.Yaml
