import DataGrid.Yaml.Scalar

/-!
The tokens of a YAML text. Indentation becomes tokens of its own, and the token that marks a key is put
in once the colon after the key is met: until then a token that may start a key is pending.
-/

namespace DataGrid.Yaml

open Cursor

inductive Token where
  | streamEnd
  | versionDirective (major : Nat)
  | tagDirective (handle lead : String)
  | otherDirective
  | documentStart | documentEnd
  | blockSequenceStart | blockMappingStart | blockEnd
  | flowSequenceStart | flowSequenceEnd | flowMappingStart | flowMappingEnd
  | blockEntry | flowEntry | key | value
  | alias (name : String)
  | anchor (name : String)
  | tag (handle : Option String) (suffix : String)
  | scalar (content : String) (plain : Bool)
  deriving DecidableEq, Repr

structure PendingKey where
  token : Nat
  required : Bool
  index : Nat
  line : Nat
  column : Nat

structure Scanner where
  cursor : Cursor
  tokens : List Token := []
  flow : Int := 0
  indent : Int := -1
  indents : List Int := []
  keyAllowed : Bool := true
  pending : List (Int × PendingKey) := []
  done : Bool := false

namespace Scanner

def inFlow (scanner : Scanner) : Bool := scanner.flow ≠ 0

def emit (scanner : Scanner) (token : Token) : Scanner := { scanner with tokens := scanner.tokens ++ [token] }

def toNextFrom : (fuel : Nat) → Scanner → Scanner
  | 0, scanner => scanner
  | fuel + 1, scanner =>
    let cursor := scanner.cursor.skip (· = ' ')
    let cursor := if cursor.here = '#' then cursor.skip fun c => !isLineEnd c else cursor
    if isBreak cursor.here then
      toNextFrom fuel { scanner with
        cursor := cursor.lineBreak.2, keyAllowed := scanner.keyAllowed || !scanner.inFlow }
    else { scanner with cursor := cursor }

def toNext (scanner : Scanner) : Scanner :=
  let cursor := scanner.cursor
  let cursor := if cursor.index = 0 && cursor.here = '\uFEFF' then cursor.next else cursor
  toNextFrom (cursor.rest.length + 1) { scanner with cursor := cursor }

def longestKey : Nat := 1024

def isStale (scanner : Scanner) (key : PendingKey) : Bool :=
  key.line ≠ scanner.cursor.line || longestKey < scanner.cursor.index - key.index

def dropStale (scanner : Scanner) : Except Error Scanner :=
  if scanner.pending.any fun (_, key) => scanner.isStale key && key.required then .error badToken
  else .ok { scanner with pending := scanner.pending.filter fun (_, key) => !scanner.isStale key }

def dropPending (scanner : Scanner) : Except Error Scanner :=
  match scanner.pending.lookup scanner.flow with
  | some key =>
    if key.required then .error badToken
    else .ok { scanner with pending := scanner.pending.filter (·.1 ≠ scanner.flow) }
  | none => .ok scanner

def savePending (scanner : Scanner) : Except Error Scanner :=
  if !scanner.keyAllowed then .ok scanner
  else do
    let scanner ← scanner.dropPending
    let cursor := scanner.cursor
    let required := !scanner.inFlow && scanner.indent = cursor.column
    let key : PendingKey := ⟨scanner.tokens.length, required, cursor.index, cursor.line, cursor.column⟩
    return { scanner with pending := scanner.pending ++ [(scanner.flow, key)] }

def unwindFrom (column : Int) : (indents : List Int) → Scanner → Scanner
  | [], scanner => scanner
  | outer :: rest, scanner =>
    if column < scanner.indent then
      unwindFrom column rest ({ scanner with indent := outer, indents := rest }.emit .blockEnd)
    else scanner

def unwind (column : Int) (scanner : Scanner) : Scanner :=
  if scanner.inFlow then scanner else unwindFrom column scanner.indents scanner

/-- Starts a block collection at a column that is deeper than the present one; the answer says whether. -/
def deepen (column : Int) (scanner : Scanner) : Bool × Scanner :=
  if scanner.indent < column then
    (true, { scanner with indents := scanner.indent :: scanner.indents, indent := column })
  else (false, scanner)

/-- The sign of an entry, key or value of a block, which starts a collection where it is deeper. -/
def blockSign (start : Token) (scanner : Scanner) : Except Error Scanner :=
  if scanner.inFlow then .ok scanner
  else if !scanner.keyAllowed then .error badToken
  else
    match scanner.deepen scanner.cursor.column with
    | (true, scanner) => .ok (scanner.emit start)
    | (false, scanner) => .ok scanner

/-- Goes past a sign of `size` characters. -/
def past (size : Nat) (token : Token) (scanner : Scanner) : Scanner :=
  { scanner with cursor := advance size scanner.cursor }.emit token

def addEnd (scanner : Scanner) : Except Error Scanner := do
  let scanner ← (scanner.unwind (-1)).dropPending
  return { scanner.emit .streamEnd with keyAllowed := false, pending := [], done := true }

def versionNumber (cursor : Cursor) : Except Error (Nat × Cursor) := do
  let (digits, cursor) := cursor.run Char.isDigit
  if digits.isEmpty then throw badToken
  return (digits.foldl (fun n c => 10 * n + (c.toNat - 0x30)) 0, cursor)

/-- A tag handle: an exclamation mark, alone or at either end of a name. -/
def tagHandle (cursor : Cursor) : Except Error (String × Cursor) := do
  cursor.require (· = '!')
  if cursor.peek 1 = ' ' then return ("!", cursor.next)
  let (name, cursor) := cursor.next.run isNameChar
  cursor.require (· = '!')
  return (String.ofList ('!' :: name ++ ['!']), cursor.next)

def isUriChar (c : Char) : Bool := c.isAlphanum || "-;/?:@&=+$,_.!~*'()[]".toList.contains c

def uriBytes : (fuel : Nat) → Cursor → Except Error (List UInt8 × Cursor)
  | 0, cursor => .ok ([], cursor)
  | fuel + 1, cursor => do
    if cursor.here ≠ '%' then return ([], cursor)
    let digits := cursor.next.rest.take 2
    if digits.length ≠ 2 || !digits.all Text.isHexDigit then throw badToken
    let (others, cursor) ← uriBytes fuel (advance 3 cursor)
    return (UInt8.ofNat (Text.hexNumber digits) :: others, cursor)

def uriFrom : (fuel : Nat) → Cursor → Except Error (List Char × Cursor)
  | 0, cursor => .ok ([], cursor)
  | fuel + 1, cursor => do
    let (chars, cursor) := cursor.run isUriChar
    if cursor.here ≠ '%' then return (chars, cursor)
    let (content, cursor) ← uriBytes (cursor.rest.length + 1) cursor
    match Text.decodeUtf8 false content with
    | none => throw badToken
    | some decoded =>
      let (others, cursor) ← uriFrom fuel cursor
      return (chars ++ decoded ++ others, cursor)

def uri (cursor : Cursor) : Except Error (String × Cursor) := do
  let (chars, after) ← uriFrom (cursor.rest.length + 1) cursor
  if after.index = cursor.index then throw badToken
  return (String.ofList chars, after)

def directive (cursor : Cursor) : Except Error (Token × Cursor) := do
  let (name, cursor) := cursor.run isNameChar
  if name.isEmpty then throw badToken
  cursor.require isSpaceOrEnd
  let (token, cursor) ← match String.ofList name with
    | "YAML" => do
      let (major, cursor) ← versionNumber (cursor.skip (· = ' '))
      cursor.require (· = '.')
      let (_, cursor) ← versionNumber cursor.next
      cursor.require isSpaceOrEnd
      pure (Token.versionDirective major, cursor)
    | "TAG" => do
      let (handle, cursor) ← tagHandle (cursor.skip (· = ' '))
      cursor.require (· = ' ')
      let (lead, cursor) ← uri (cursor.skip (· = ' '))
      cursor.require isSpaceOrEnd
      pure (Token.tagDirective handle lead, cursor)
    | _ => pure (Token.otherDirective, cursor.skip fun c => !isLineEnd c)
  return (token, ← cursor.restOfLine)

def addDirective (scanner : Scanner) : Except Error Scanner := do
  let scanner ← (scanner.unwind (-1)).dropPending
  let (token, cursor) ← directive scanner.cursor.next
  return { scanner.emit token with keyAllowed := false, cursor := cursor }

def addMark (token : Token) (scanner : Scanner) : Except Error Scanner := do
  let scanner ← (scanner.unwind (-1)).dropPending
  return { scanner with keyAllowed := false }.past 3 token

def openFlow (token : Token) (scanner : Scanner) : Except Error Scanner := do
  let scanner ← scanner.savePending
  return { scanner with flow := scanner.flow + 1, keyAllowed := true }.past 1 token

def closeFlow (token : Token) (scanner : Scanner) : Except Error Scanner := do
  let scanner ← scanner.dropPending
  return { scanner with flow := scanner.flow - 1, keyAllowed := false }.past 1 token

def addComma (scanner : Scanner) : Except Error Scanner := do
  let scanner ← { scanner with keyAllowed := true }.dropPending
  return scanner.past 1 .flowEntry

def addDash (scanner : Scanner) : Except Error Scanner := do
  let scanner ← scanner.blockSign .blockSequenceStart
  let scanner ← { scanner with keyAllowed := true }.dropPending
  return scanner.past 1 .blockEntry

def addQuestion (scanner : Scanner) : Except Error Scanner := do
  let scanner ← scanner.blockSign .blockMappingStart
  let scanner ← { scanner with keyAllowed := !scanner.inFlow }.dropPending
  return scanner.past 1 .key

/-- A colon: it makes the pending token a key, or else stands for a value without a key. -/
def addColon (scanner : Scanner) : Except Error Scanner := do
  match scanner.pending.lookup scanner.flow with
  | some key =>
    let scanner := { scanner with
      pending := scanner.pending.filter (·.1 ≠ scanner.flow)
      tokens := scanner.tokens.insertIdx key.token .key
      keyAllowed := false }
    let scanner := if scanner.inFlow then scanner
      else match scanner.deepen key.column with
        | (true, scanner) => { scanner with tokens := scanner.tokens.insertIdx key.token .blockMappingStart }
        | (false, scanner) => scanner
    return scanner.past 1 .value
  | none =>
    let scanner ← scanner.blockSign .blockMappingStart
    let scanner ← { scanner with keyAllowed := !scanner.inFlow }.dropPending
    return scanner.past 1 .value

def addContent (read : Cursor → Except Error (Token × Cursor)) (scanner : Scanner) : Except Error Scanner := do
  let scanner ← scanner.savePending
  let (token, cursor) ← read scanner.cursor
  return { scanner.emit token with keyAllowed := false, cursor := cursor }

def readName (token : String → Token) (cursor : Cursor) : Except Error (Token × Cursor) := do
  let (name, cursor) := cursor.next.run isNameChar
  if name.isEmpty then throw badToken
  cursor.require fun c => isGap c || "?:,]\x7d%@\x60".toList.contains c
  return (token (String.ofList name), cursor)

def hasHandle (chars : List Char) : Bool := (chars.takeWhile fun c => !isSpaceOrEnd c).contains '!'

def readTag (cursor : Cursor) : Except Error (Token × Cursor) := do
  let c := cursor.peek 1
  let (token, cursor) ←
    if c = '<' then do
      let (suffix, cursor) ← uri (advance 2 cursor)
      cursor.require (· = '>')
      pure (Token.tag none suffix, cursor.next)
    else if isGap c then pure (Token.tag none "!", cursor.next)
    else do
      let (handle, cursor) ← if hasHandle (cursor.rest.drop 1) then tagHandle cursor else pure ("!", cursor.next)
      let (suffix, cursor) ← uri cursor
      pure (Token.tag (some handle) suffix, cursor)
  cursor.require isSpaceOrEnd
  return (token, cursor)

def addBlockText (scanner : Scanner) : Except Error Scanner := do
  let scanner ← { scanner with keyAllowed := true }.dropPending
  let (content, cursor) ← blockScalar scanner.indent scanner.cursor
  return { scanner.emit (.scalar (String.ofList content) false) with cursor := cursor }

def readQuoted (cursor : Cursor) : Except Error (Token × Cursor) := do
  let (content, cursor) ← quotedScalar cursor
  return (.scalar (String.ofList content) false, cursor)

def addPlain (scanner : Scanner) : Except Error Scanner := do
  let scanner ← scanner.savePending
  let (content, broken, cursor) := plainScalar scanner.inFlow (scanner.indent + 1) scanner.cursor
  return { scanner.emit (.scalar (String.ofList content) true) with keyAllowed := broken, cursor := cursor }

def startsPlain (scanner : Scanner) : Bool :=
  let c := scanner.cursor.here
  let signs := "-?:,[]\x7b\x7d#&*!|>'\"%@\x60".toList
  !(isGap c || signs.contains c) ||
    (!isGap (scanner.cursor.peek 1) && (c = '-' || (!scanner.inFlow && (c = '?' || c = ':'))))

def scanOne (scanner : Scanner) : Except Error Scanner := do
  let scanner ← scanner.toNext.dropStale
  let scanner := scanner.unwind scanner.cursor.column
  let cursor := scanner.cursor
  let c := cursor.here
  let gapAfter := isGap (cursor.peek 1)
  if c = nul then scanner.addEnd
  else if c = '%' && cursor.column = 0 then scanner.addDirective
  else if c = '-' && cursor.column = 0 && cursor.atMark '-' then scanner.addMark .documentStart
  else if c = '.' && cursor.column = 0 && cursor.atMark '.' then scanner.addMark .documentEnd
  else if c = '[' then scanner.openFlow .flowSequenceStart
  else if c = '\x7b' then scanner.openFlow .flowMappingStart
  else if c = ']' then scanner.closeFlow .flowSequenceEnd
  else if c = '\x7d' then scanner.closeFlow .flowMappingEnd
  else if c = ',' then scanner.addComma
  else if c = '-' && gapAfter then scanner.addDash
  else if c = '?' && (scanner.inFlow || gapAfter) then scanner.addQuestion
  else if c = ':' && (scanner.inFlow || gapAfter) then scanner.addColon
  else if c = '*' then scanner.addContent (readName Token.alias)
  else if c = '&' then scanner.addContent (readName Token.anchor)
  else if c = '!' then scanner.addContent readTag
  else if (c = '|' || c = '>') && !scanner.inFlow then scanner.addBlockText
  else if c = '\'' || c = '"' then scanner.addContent readQuoted
  else if scanner.startsPlain then scanner.addPlain
  else throw badToken

/-- The number of tokens that cannot change any more: those before every pending key. -/
def settled (scanner : Scanner) : Nat :=
  scanner.pending.foldl (fun n (_, key) => min n key.token) scanner.tokens.length

/-- Reads tokens to the end, or up to a failure. The tokens that were read last do not count when a key
has to be among them; `ready` are those that count in any case. -/
def scanAll (ready : Nat) : (fuel : Nat) → Scanner → List Token × Option Error
  | 0, scanner => (scanner.tokens, none)
  | fuel + 1, scanner =>
    if scanner.done then (scanner.tokens, none)
    else
      match scanner.dropStale with
      | .error failure => (scanner.tokens.take ready, some failure)
      | .ok scanner =>
        match scanner.scanOne with
        | .ok further => scanAll scanner.settled fuel further
        | .error failure => (scanner.tokens.take scanner.settled, some failure)

end Scanner

def tokens (chars : List Char) : List Token × Option Error :=
  Scanner.scanAll 0 (chars.length + 2) { cursor := { rest := chars } }

end DataGrid.Yaml
