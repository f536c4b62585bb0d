import DataGrid.Text.Segment
import DataGrid.Value.Integer

/-!
The forms of plain scalars: which words and numbers stand for something else than their text, and the
values that they stand for. Numbers may be written in bases 2, 8, 10, 16 and 60.
-/

namespace DataGrid.Yaml

inductive Form where
  | text | null | bool | int | float | binary | moment | merge | value
  | sequence | mapping | ordered | pairs | set
  deriving DecidableEq, Repr

def commonTag : String := "tag:yaml.org,2002:"

def Form.ofTag? (tag : String) : Option Form :=
  [("str", Form.text), ("null", .null), ("bool", .bool), ("int", .int), ("float", .float), ("binary", .binary),
    ("timestamp", .moment), ("merge", .merge), ("value", .value), ("seq", .sequence), ("map", .mapping),
    ("omap", .ordered), ("pairs", .pairs), ("set", .set)].findSome? fun (name, form) =>
      if tag = commonTag ++ name then some form else none

def isOctal (c : Char) : Bool := '0' ≤ c && c ≤ '7'

def unsigned : List Char → List Char
  | '+' :: rest | '-' :: rest => rest
  | chars => chars

/-- Whether a text is a run of characters of a kind, at least one of them. -/
def isRunOf (kind : Char → Bool) (chars : List Char) : Bool := !chars.isEmpty && chars.all kind

def isDigitOrLine (c : Char) : Bool := c.isDigit || c = '_'

def isSixtieth : List Char → Bool
  | [c] => c.isDigit
  | [c, d] => '0' ≤ c && c ≤ '5' && d.isDigit
  | _ => false

def colonParts (chars : List Char) : List (List Char) := Text.segments ':' chars

def isInt (chars : List Char) : Bool :=
  match unsigned chars with
  | '0' :: 'b' :: rest => isRunOf (fun c => c = '0' || c = '1' || c = '_') rest
  | '0' :: 'x' :: rest => isRunOf (fun c => Text.isHexDigit c || c = '_') rest
  | '0' :: rest => rest.all fun c => isOctal c || c = '_'
  | c :: rest =>
    c.isDigit &&
      match colonParts (c :: rest) with
      | first :: others => first.all isDigitOrLine && others.all isSixtieth
      | [] => false
  | [] => false

def isExponent : List Char → Bool
  | [] => true
  | e :: sign :: digits => (e = 'e' || e = 'E') && (sign = '+' || sign = '-') && isRunOf Char.isDigit digits
  | _ => false

def isFloat (chars : List Char) : Bool :=
  let body := unsigned chars
  let whole := body.takeWhile fun c => c ≠ '.'
  let part := (body.drop whole.length).drop 1
  let after := part.dropWhile isDigitOrLine
  if body.length = whole.length then false
  else
    match whole with
    | [] =>
      [['i', 'n', 'f'], ['I', 'n', 'f'], ['I', 'N', 'F']].contains part ||
        (chars.head? = some '.' &&
          ([['n', 'a', 'n'], ['N', 'a', 'N'], ['N', 'A', 'N']].contains part ||
            ((part.head?.map Char.isDigit).getD false && isExponent after)))
    | c :: _ =>
      c.isDigit &&
        match colonParts whole with
        | [first] => first.all isDigitOrLine && isExponent after
        | first :: others => first.all isDigitOrLine && others.all isSixtieth && after.isEmpty
        | [] => false

structure MomentParts where
  date : List Nat
  clock : List Nat := []
  fraction : List Char := []
  /-- The distance to universal time: whether it is behind, hours and minutes. -/
  zone : Option (Bool × Nat × Nat) := none

/-- Between `least` and `most` digits at the front of a text. -/
def digitsOf (least most : Nat) (chars : List Char) : Option (List Char × List Char) :=
  let digits := (chars.take most).takeWhile Char.isDigit
  if digits.length < least then none else some (digits, chars.drop digits.length)

def signOf (kind : Char → Bool) : List Char → Option (List Char)
  | c :: rest => if kind c then some rest else none
  | [] => none

def zoneOf? (chars : List Char) : Option (Option (Bool × Nat × Nat)) :=
  match chars.dropWhile fun c => c = ' ' || c = '\t' with
  | [] => if chars.isEmpty then some none else none
  | ['Z'] => some (some (false, 0, 0))
  | sign :: rest => do
    if sign ≠ '+' && sign ≠ '-' then failure
    let (hours, rest) ← digitsOf 1 2 rest
    match rest with
    | [] => return some (sign = '-', digitsNumber hours, 0)
    | rest =>
      let (minutes, rest) ← digitsOf 2 2 (← signOf (· = ':') rest)
      if !rest.isEmpty then failure
      return some (sign = '-', digitsNumber hours, digitsNumber minutes)

def momentParts? (chars : List Char) : Option MomentParts := do
  let (year, rest) ← digitsOf 4 4 chars
  let (month, rest) ← digitsOf 1 2 (← signOf (· = '-') rest)
  let (day, rest) ← digitsOf 1 2 (← signOf (· = '-') rest)
  let date := [digitsNumber year, digitsNumber month, digitsNumber day]
  match rest with
  | [] => return { date := date }
  | c :: more =>
    let rest := if c = 'T' || c = 't' then more else rest.dropWhile fun c => c = ' ' || c = '\t'
    if c ≠ 'T' && c ≠ 't' && c ≠ ' ' && c ≠ '\t' then failure
    let (hour, rest) ← digitsOf 1 2 rest
    let (minute, rest) ← digitsOf 2 2 (← signOf (· = ':') rest)
    let (second, rest) ← digitsOf 2 2 (← signOf (· = ':') rest)
    let (fraction, rest) := match rest with
      | '.' :: more => (more.takeWhile Char.isDigit, more.dropWhile Char.isDigit)
      | _ => ([], rest)
    let zone ← zoneOf? rest
    return { date := date, clock := [hour, minute, second].map digitsNumber, fraction := fraction, zone := zone }

/-- A date alone has all its digits when it stands for one without being told so. -/
def isMoment (chars : List Char) : Bool :=
  match momentParts? chars with
  | some parts => !parts.clock.isEmpty || chars.length = 10
  | none => false

def isBool (content : String) : Bool :=
  ["yes", "Yes", "YES", "no", "No", "NO", "true", "True", "TRUE", "false", "False", "FALSE", "on", "On", "ON",
    "off", "Off", "OFF"].contains content

/-- A text without a line end that closes it, unless it is nothing else. -/
def withoutLineEnd (chars : List Char) : List Char :=
  if chars.length < 2 then chars else if chars.getLast? = some '\n' then chars.dropLast else chars

def Form.ofPlain (content : String) : Form :=
  let chars := withoutLineEnd content.toList
  let content := String.ofList chars
  if ["", "~", "null", "Null", "NULL"].contains content then .null
  else if isBool content then .bool
  else if isFloat chars then .float
  else if isInt chars then .int
  else if content = "<<" then .merge
  else if isMoment chars then .moment
  else if content = "=" then .value
  else .text

def emptyNumber : Error := .outOfRange "string index out of range"

def readInt (content : String) : Except Error Int := do
  let chars := content.toList.filter (· ≠ '_')
  if chars.isEmpty then throw emptyNumber
  let body := unsigned chars
  let magnitude ← match body with
    | [] => throw emptyNumber
    | ['0'] => pure 0
    | '0' :: 'b' :: rest => integerOfText 2 (String.ofList rest)
    | '0' :: 'x' :: rest => integerOfText 16 (String.ofList rest)
    | '0' :: _ => integerOfText 8 (String.ofList body)
    | _ => (colonParts body).foldlM (fun n part => return 60 * n + (← integerOfText 10 (String.ofList part))) 0
  return if chars.head? = some '-' then -magnitude else magnitude

/-- A decimal number as a double; information separators are no blanks around it. -/
def readDecimal (chars : List Char) : Except Error Double :=
  match (Decimal.ofText? (String.ofList chars)).filter fun _ => !chars.any Text.isSeparator with
  | some (.finite negative c e) => .ok (Double.ofScientific negative c e)
  | some (.infinite negative) => .ok (.infinite negative)
  | some (.nan _ false "") => .ok .nan
  | _ => .error (.badValue ("could not convert string to float: " ++ quoted (String.ofList chars)))

/-- A sum of numbers below sixty with their powers of sixty, from the last one on. -/
def sumSixties : (power : Nat) → (sum : Double) → List Double → Except Error Double
  | _, sum, [] => .ok sum
  | power, sum, x :: rest =>
    match Double.ofInt (Nat.pow 60 power) with
    | .infinite _ => .error (.tooLarge "int too large to convert to float")
    | scale => sumSixties (power + 1) (sum.add (x.mul scale)) rest

def readFloat (content : String) : Except Error Double := do
  let chars := Text.lower (content.toList.filter (· ≠ '_'))
  if chars.isEmpty then throw emptyNumber
  let body := unsigned chars
  let magnitude ←
    if body = ['.', 'i', 'n', 'f'] then pure (Double.infinite false)
    else if body = ['.', 'n', 'a', 'n'] then pure Double.nan
    else
      match colonParts body with
      | [single] => readDecimal single
      | parts => do sumSixties 0 (Double.zero false) (← parts.mapM readDecimal).reverse
  return if chars.head? = some '-' then magnitude.negate else magnitude

def sixBits? (c : Char) : Option Nat :=
  if 'A' ≤ c ∧ c ≤ 'Z' then some (c.toNat - 0x41)
  else if 'a' ≤ c ∧ c ≤ 'z' then some (c.toNat - 0x47)
  else if c.isDigit then some (c.toNat + 4)
  else if c = '+' then some 62
  else if c = '/' then some 63
  else none

/-- Reads bytes in base 64. `bits` holds what is left of the letters before, `place` counts them in groups of
four and `pads` the signs that fill up a group; other characters do not count. -/
def readBinary : (bits place pads : Nat) → List Char → Option (List UInt8)
  | _, place, _, [] => if place = 0 then some [] else none
  | bits, place, pads, c :: rest =>
    if c = '=' then
      if place < 2 then readBinary bits place pads rest
      else if 4 ≤ place + pads + 1 then some []
      else readBinary bits place (pads + 1) rest
    else
      match sixBits? c with
      | none => readBinary bits place pads rest
      | some six =>
        let byte (high low : Nat) : UInt8 := UInt8.ofNat (high + low)
        match place with
        | 0 => readBinary six 1 0 rest
        | 1 => (readBinary (six % 16) 2 0 rest).map (byte (bits * 4) (six / 16) :: ·)
        | 2 => (readBinary (six % 4) 3 0 rest).map (byte (bits * 16) (six / 4) :: ·)
        | _ => (readBinary 0 0 0 rest).map (byte (bits * 64) six :: ·)

def bytesOfText (chars : List Char) : Except Error (List UInt8) :=
  match readBinary 0 0 0 chars with
  | some content => if chars.all (·.toNat < 0x80) then .ok content else .error (.malformedYaml .value)
  | none => .error (.malformedYaml .value)

/-- The millionths of a second ahead of universal time, less than a day of them. -/
def offsetOf (zone : Bool × Nat × Nat) : Except Error Int :=
  let (behind, hours, minutes) := zone
  let micros : Int := (hours * 3600 + minutes * 60) * 1000000
  let offset := if behind then -micros else micros
  if offset.natAbs < 86400000000 then .ok offset
  else .error (.badValue ("offset must be a timedelta strictly between -timedelta(hours=24) and " ++
    "timedelta(hours=24), not " ++ spanExpression offset ++ "."))

def MomentParts.toMoment (parts : MomentParts) : Except Error Moment := do
  let offset ← parts.zone.mapM offsetOf
  let part (numbers : List Nat) (n : Nat) : Nat := numbers.getD n 0
  let (year, month, day) := (part parts.date 0, part parts.date 1, part parts.date 2)
  let (hour, minute, second) := (part parts.clock 0, part parts.clock 1, part parts.clock 2)
  let refuse (reason : String) : Except Error Unit := throw (.badValue reason)
  if year = 0 then refuse "year 0 is out of range"
  if month < 1 || 12 < month then refuse "month must be in 1..12"
  if day < 1 || daysOf year month < day then refuse "day is out of range for month"
  if 23 < hour then refuse "hour must be in 0..23"
  if 59 < minute then refuse "minute must be in 0..59"
  if 59 < second then refuse "second must be in 0..59"
  let kind := if parts.clock.isEmpty then MomentKind.date else .dateTime
  return { kind, year, month, day, hour, minute, second, micro := Moment.microsOf parts.fraction, offset }

def readBool (content : String) : Except Error Bool :=
  let word := Text.lowerString content
  if ["yes", "true", "on"].contains word then .ok true
  else if ["no", "false", "off"].contains word then .ok false
  else .error (.unknownKey (quoted word))

/-- The value of a scalar in a form. The merge key, the default value and collections stand for nothing here. -/
def Form.read (form : Form) (content : String) : Except Error Value :=
  match form with
  | .text => .ok (.text content)
  | .null => .ok .null
  | .bool => (readBool content).map .bool
  | .int => (readInt content).map .int
  | .float => (readFloat content).map .float
  | .binary => (bytesOfText content.toList).map .bytes
  | .moment =>
    match momentParts? (withoutLineEnd content.toList) with
    | some parts => parts.toMoment.map .moment
    | none => .error .noSuchMember
  | _ => .error (.malformedYaml .value)

end DataGrid.Yaml
