import DataGrid.Error
import DataGrid.Text.Encoding
import DataGrid.Text.Hex
import DataGrid.Value

/-!
Reading JSON text. Reading stops at the first fault and reports what was expected and where: by line,
column and character. Besides the standard's values, `NaN`, `Infinity` and `-Infinity` are numbers; of
several fields of one name the last value counts.
-/

namespace DataGrid.Json

inductive Fault where
  | value | extra | fieldName | colon | comma | unterminated | control | escape | unicodeEscape | byteOrderMark
  | nesting
  | longNumber (digits : Nat)
  deriving DecidableEq, Repr

def Fault.text : Fault → String
  | .value => "Expecting value"
  | .extra => "Extra data"
  | .fieldName => "Expecting property name enclosed in double quotes"
  | .colon => "Expecting ':' delimiter"
  | .comma => "Expecting ',' delimiter"
  | .unterminated => "Unterminated string starting at"
  | .control => "Invalid control character at"
  | .escape => "Invalid \\escape"
  | .unicodeEscape => "Invalid \\uXXXX escape"
  | .byteOrderMark => "Unexpected UTF-8 BOM (decode using utf-8-sig)"
  | .nesting => ""
  | .longNumber digits => digitLimitReason (some digits)

/-- A fault and the number of characters left to read where it was found. -/
structure Stop where
  fault : Fault
  left : Nat
  deriving DecidableEq, Repr

def isSpace (c : Char) : Bool := c = ' ' || c = '\t' || c = '\n' || c = '\r'

def skipSpace (chars : List Char) : List Char := chars.dropWhile isSpace

def readUnit (chars : List Char) : Option (Nat × List Char) :=
  let digits := chars.take 4
  let rest := chars.drop 4
  if digits.all Text.isHexDigit && !rest.isEmpty then some (Text.hexNumber digits, rest) else none

def isHighSurrogate (n : Nat) : Bool := 0xD800 ≤ n && n ≤ 0xDBFF
def isLowSurrogate (n : Nat) : Bool := 0xDC00 ≤ n && n ≤ 0xDFFF

/-- The character after `\u`, a surrogate pair counting as one. -/
def readUnicode (chars : List Char) : Option (Char × List Char) := do
  let (first, rest) ← readUnit chars
  if isHighSurrogate first then
    match rest with
    | '\\' :: 'u' :: more =>
      match readUnit more with
      | some (second, after) =>
        if isLowSurrogate second then
          some (Char.ofNat (0x10000 + (first - 0xD800) * 0x400 + (second - 0xDC00)), after)
        else some (Text.charOfUnit first, rest)
      | none => some (Text.charOfUnit first, rest)
    | _ => some (Text.charOfUnit first, rest)
  else some (Text.charOfUnit first, rest)

def simpleEscape? (c : Char) : Option Char :=
  match c with
  | '"' => some '"'
  | '\\' => some '\\'
  | '/' => some '/'
  | 'b' => some (Char.ofNat 8)
  | 'f' => some (Char.ofNat 12)
  | 'n' => some '\n'
  | 'r' => some '\r'
  | 't' => some '\t'
  | _ => none

/-- The rest of a text up to its closing quote; `start` is what was left at the opening one. -/
def readText (start : Nat) : (fuel : Nat) → (content : List Char) → List Char → Except Stop (List Char × List Char)
  | 0, _, chars => .error ⟨.unterminated, chars.length⟩
  | _ + 1, _, [] => .error ⟨.unterminated, start⟩
  | fuel + 1, content, c :: rest =>
    if c = '"' then .ok (content.reverse, rest)
    else if c.toNat < 0x20 then .error ⟨.control, rest.length + 1⟩
    else if c ≠ '\\' then readText start fuel (c :: content) rest
    else
      match rest with
      | [] => .error ⟨.unterminated, start⟩
      | 'u' :: digits =>
        match readUnicode digits with
        | some (d, after) => readText start fuel (d :: content) after
        | none => .error ⟨.unicodeEscape, digits.length + 1⟩
      | e :: after =>
        match simpleEscape? e with
        | some d => readText start fuel (d :: content) after
        | none => .error ⟨.escape, rest.length + 1⟩

/-- Splits a number off: whole digits, fraction digits and exponent, each where present. -/
def readNumber (chars : List Char) : Option (Value × List Char) :=
  let (negative, body) := match chars with
    | '-' :: rest => (true, rest)
    | _ => (false, chars)
  let whole := match body with
    | '0' :: _ => ['0']
    | _ => body.takeWhile Char.isDigit
  if whole.isEmpty then none
  else
    let rest := body.drop whole.length
    let fraction := match rest with
      | '.' :: more => more.takeWhile Char.isDigit
      | _ => []
    let rest := if fraction.isEmpty then rest else rest.drop (fraction.length + 1)
    let exponent : Option (Int × List Char) := match rest with
      | e :: more =>
        if e = 'e' || e = 'E' then
          let (down, digits) := match more with
            | '-' :: digits => (true, digits)
            | '+' :: digits => (false, digits)
            | _ => (false, more)
          let taken := digits.takeWhile Char.isDigit
          if taken.isEmpty then none
          else
            let size : Int := digitsNumber taken
            some (if down then -size else size, digits.drop taken.length)
        else none
      | [] => none
    match fraction, exponent with
    | [], none =>
      let n : Int := digitsNumber whole
      some (.int (if negative then -n else n), rest)
    | _, _ =>
      let (power, after) := exponent.getD (0, rest)
      some (.float (Double.ofScientific negative (digitsNumber (whole ++ fraction)) (power - fraction.length)), after)

def readWord (chars : List Char) : Option (Value × List Char) :=
  [("null", Value.null), ("true", .bool true), ("false", .bool false), ("NaN", .float .nan),
    ("Infinity", .float (.infinite false)), ("-Infinity", .float (.infinite true))].findSome? fun (word, value) =>
      if word.toList.isPrefixOf chars then some (value, chars.drop word.length) else none

/-- Refuses one more list or record inside `depth` others. -/
def checkDepth (depth : Nat) (chars : List Char) : Except Stop Unit :=
  if depth < stepLimit then .ok () else .error ⟨.nesting, chars.length⟩

mutual

/-- One value inside `depth` lists and records; `fuel` bounds the characters left. -/
def readValue (depth : Nat) : (fuel : Nat) → List Char → Except Stop (Value × List Char)
  | 0, chars => .error ⟨.value, chars.length⟩
  | fuel + 1, chars =>
    match chars with
    | '"' :: rest => do
      let (content, after) ← readText chars.length (fuel + 1) [] rest
      .ok (.text (String.ofList content), after)
    | '{' :: rest => do
      checkDepth depth chars
      match skipSpace rest with
      | '}' :: after => .ok (.object [], after)
      | more => readFields (depth + 1) fuel [] more
    | '[' :: rest => do
      checkDepth depth chars
      match skipSpace rest with
      | ']' :: after => .ok (.list [], after)
      | more => readItems (depth + 1) fuel [] more
    | _ =>
      match readWord chars with
      | some found => .ok found
      | none =>
        match readNumber chars with
        | some (.int n, after) =>
          let digits := if isTooLong n then (Nat.toDigits 10 n.natAbs).length else 0
          if digitLimit < digits then .error ⟨.longNumber digits, chars.length⟩ else .ok (.int n, after)
        | some found => .ok found
        | none => .error ⟨.value, chars.length⟩

def readFields (depth : Nat) : (fuel : Nat) → List (String × Value) → List Char → Except Stop (Value × List Char)
  | 0, _, chars => .error ⟨.fieldName, chars.length⟩
  | fuel + 1, fields, chars =>
    match chars with
    | '"' :: rest => do
      let (name, after) ← readText chars.length (rest.length + 1) [] rest
      match skipSpace after with
      | ':' :: more =>
        let (value, after) ← readValue depth fuel (skipSpace more)
        let fields := Value.setField fields (String.ofList name) value
        match skipSpace after with
        | '}' :: after => .ok (.object fields, after)
        | ',' :: more => readFields depth fuel fields (skipSpace more)
        | other => .error ⟨.comma, other.length⟩
      | other => .error ⟨.colon, other.length⟩
    | _ => .error ⟨.fieldName, chars.length⟩

def readItems (depth : Nat) : (fuel : Nat) → List Value → List Char → Except Stop (Value × List Char)
  | 0, _, chars => .error ⟨.value, chars.length⟩
  | fuel + 1, items, chars => do
    let (value, after) ← readValue depth fuel chars
    match skipSpace after with
    | ']' :: after => .ok (.list (value :: items).reverse, after)
    | ',' :: more => readItems depth fuel (value :: items) (skipSpace more)
    | other => .error ⟨.comma, other.length⟩

end

/-- A fault with its place: line and column count from one, characters from zero. -/
def describe (chars : List Char) (stop : Stop) : String :=
  let index := chars.length - stop.left
  let before := chars.take index
  let line := before.count '\n' + 1
  let column := (before.reverse.takeWhile (· ≠ '\n')).length + 1
  s!"{stop.fault.text}: line {line} column {column} (char {index})"

def failure (parameter : String) (chars : List Char) (stop : Stop) : Error :=
  match stop.fault with
  | .nesting => .tooDeep
  | .longNumber _ => .badValue stop.fault.text
  | _ => .invalidJson parameter (describe chars stop)

def readDocument (chars : List Char) : Except Stop Value :=
  match readValue 0 (chars.length + 1) (skipSpace chars) with
  | .error stop => .error stop
  | .ok (value, after) =>
    match skipSpace after with
    | [] => .ok value
    | rest => .error ⟨.extra, rest.length⟩

def parseChars (parameter : String) (chars : List Char) : Except Error Value :=
  (readDocument chars).mapError (failure parameter chars)

/-- The value of a parameter that was sent as a text, which must not start with a byte order mark. -/
def parse (parameter : String) (chars : List Char) : Except Error Value :=
  match chars with
  | '\uFEFF' :: _ => .error (failure parameter chars ⟨.byteOrderMark, chars.length⟩)
  | _ => parseChars parameter chars

end DataGrid.Json
