import DataGrid.Value.Display
import DataGrid.Error

/-!
Reading an integer from a value. Numbers lose their fraction; a text is an optional sign and digits of
any script, blanks around it and single low lines between digits allowed. Decimal digits have a limit.
-/

namespace DataGrid

inductive IntegerFault where
  | malformed
  | tooLong (digits : Nat)

def digitIn? (base : Nat) (c : Char) : Option Nat :=
  let n := (Text.digitValue? c).getD
    (if 'a' ≤ c ∧ c ≤ 'z' then c.toNat - 0x57 else if 'A' ≤ c ∧ c ≤ 'Z' then c.toNat - 0x37 else base)
  if n < base then some n else none

/-- The digits at the front of a text with single low lines between them: their value, how many they
are, and what follows. `after` says whether a digit came just before. -/
def readDigitRun (base : Nat) : (value count : Nat) → (after : Bool) → List Char → Option (Nat × Nat × List Char)
  | value, count, after, [] => if after then some (value, count, []) else none
  | value, count, after, c :: rest =>
    if c = '_' then if after then readDigitRun base value count false rest else none
    else
      match digitIn? base c with
      | some d => readDigitRun base (base * value + d) (count + 1) true rest
      | none => if after then some (value, count, c :: rest) else none

/-- Digits without the mark of their base, and a low line after the mark. -/
def withoutMark (base : Nat) (chars : List Char) : List Char :=
  let unlined : List Char → List Char
    | '_' :: rest => rest
    | rest => rest
  match chars with
  | '0' :: mark :: rest =>
    let letter := mark.toLower
    if (base = 2 && letter = 'b') || (base = 8 && letter = 'o') || (base = 16 && letter = 'x') then unlined rest
    else chars
  | _ => chars

/-- The blanks that may surround a number: all but the information separators. -/
def isNumberBlank (c : Char) : Bool := Text.isBlank c && !Text.isSeparator c

def readInteger (base : Nat) (chars : List Char) : Except IntegerFault Int :=
  let (negative, digits) := match chars.dropWhile isNumberBlank with
    | '-' :: rest => (true, rest)
    | '+' :: rest => (false, rest)
    | rest => (false, rest)
  match readDigitRun base 0 0 false (withoutMark base digits) with
  | none => .error .malformed
  | some (value, count, rest) =>
    if base = 10 && digitLimit < count then .error (.tooLong count)
    else if rest.all isNumberBlank then .ok (if negative then -(value : Int) else value)
    else .error .malformed

def integerFault (base : Nat) (shown : String) : IntegerFault → Error
  | .malformed =>
    .badValue (s!"invalid literal for int() with base {base}: " ++ String.ofList (shown.toList.take 200))
  | .tooLong digits => .badValue (digitLimitReason (some digits))

def integerOfText (base : Nat) (s : String) : Except Error Int :=
  (readInteger base s.toList).mapError (integerFault base (quoted s))

def uuidNumber (canonical : String) : Nat := Text.hexNumber (canonical.toList.filter (· ≠ '-'))

namespace Value

def toInteger : Value → Except Error Int
  | .bool flag => .ok (if flag then 1 else 0)
  | .int n => .ok n
  | .float .nan => .error (.badValue "cannot convert float NaN to integer")
  | .float (.infinite _) => .error (.tooLarge "cannot convert float infinity to integer")
  | .float x => .ok ((x.truncate?).getD 0)
  | .decimal (.nan ..) => .error (.badValue "cannot convert NaN to integer")
  | .decimal (.infinite _) => .error (.tooLarge "cannot convert Infinity to integer")
  | .decimal (.finite negative c e) => do
    checkMemory e.toNat
    let magnitude : Int :=
      if 0 ≤ e then c * Nat.pow 10 e.toNat
      else if Decimal.topExponent c e ≤ 0 then 0
      else c / Nat.pow 10 (-e).toNat
    .ok (if negative then -magnitude else magnitude)
  | .text s => integerOfText 10 s
  | .bytes content =>
    if content.any (0x80 ≤ ·.toNat) then .error (integerFault 10 (quotedBytes content) .malformed)
    else (readInteger 10 (content.map fun b => Char.ofNat b.toNat)).mapError (integerFault 10 (quotedBytes content))
  | .uuid canonical => .ok (uuidNumber canonical)
  | _ => .error .wrongType

end Value

end DataGrid
