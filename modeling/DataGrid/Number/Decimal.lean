import DataGrid.Number.Text
import DataGrid.Text.Class
import DataGrid.Text.Blank

/-!
Exact decimal numbers, which keep the digits they were written with: `1.50` and `1.5` are equal and
have different texts.
-/

namespace DataGrid

/-- `finite negative c e` stands for `± c * 10 ^ e`. -/
inductive Decimal where
  | finite (negative : Bool) (coefficient : Nat) (exponent : Int)
  | infinite (negative : Bool)
  | nan (negative signaling : Bool) (payload : String)
  deriving DecidableEq, Inhabited, Repr

namespace Decimal

def isZero : Decimal → Bool
  | .finite _ 0 _ => true
  | _ => false

/-- The text of a decimal: positional unless the exponent is positive or more than six zeros would
follow the point. -/
def text : Decimal → String
  | .infinite negative => if negative then "-Infinity" else "Infinity"
  | .nan negative signaling payload =>
    (if negative then "-" else "") ++ (if signaling then "sNaN" else "NaN") ++ payload
  | .finite negative c e =>
    let digits := Nat.toDigits 10 c
    let size : Int := digits.length
    let left := e + size
    let dot := if e ≤ 0 && -6 < left then left else 1
    let body :=
      if dot ≤ 0 then '0' :: '.' :: (List.replicate (-dot).toNat '0' ++ digits)
      else if size ≤ dot then digits ++ List.replicate (dot - size).toNat '0'
      else digits.take dot.toNat ++ '.' :: digits.drop dot.toNat
    let tail := if left = dot then [] else
      'E' :: (if left - dot < 0 then '-' else '+') :: Nat.toDigits 10 (left - dot).natAbs
    String.ofList ((if negative then ['-'] else []) ++ body ++ tail)

/-- The nearest double; a signaling NaN has none. -/
def toDouble? : Decimal → Option Double
  | .finite negative c e => some (Double.ofScientific negative c e)
  | .infinite negative => some (.infinite negative)
  | .nan _ signaling _ => if signaling then none else some .nan

/-- The coefficient and exponent of the same number without trailing zeros. -/
def reduced (c : Nat) (e : Int) : Nat × Int :=
  if c % 10 = 0 ∧ c ≠ 0 then reduced (c / 10) (e + 1) else (c, e)
termination_by c
decreasing_by omega

/-- Where the first digit of a number stands: the exponent of the least power of ten above it. -/
def topExponent (c : Nat) (e : Int) : Int := e + (Nat.toDigits 10 c).length

def compareMagnitudes (c : Nat) (e : Int) (d : Nat) (f : Int) : Ordering :=
  (compare (topExponent c e) (topExponent d f)).then
    (compare (c * Nat.pow 10 (e - f).toNat) (d * Nat.pow 10 (f - e).toNat))

def keptDigits : Nat := 28

/-- A coefficient of at most `count` digits and its exponent; a half goes to the even neighbour. -/
def roundedTo (count c : Nat) (e : Int) : Nat × Int :=
  let excess := (Nat.toDigits 10 c).length - count
  if excess = 0 then (c, e)
  else
    let rounded := Double.nearestQuotient c (Nat.pow 10 excess)
    if rounded = Nat.pow 10 count then (Nat.pow 10 (count - 1), e + excess + 1) else (rounded, e + excess)

/-- A decimal times a number; no number can be made of a signaling one, or of none times infinity. -/
def times? (n : Nat) : Decimal → Option Decimal
  | .finite negative c e =>
    let (c, e) := roundedTo keptDigits (n * c) e
    some (.finite negative c e)
  | .infinite negative => if n = 0 then none else some (.infinite negative)
  | .nan negative signaling payload => if signaling then none else some (.nan negative false payload)

/-- Reads digits, a point among them, into a coefficient and the number of places after the point. -/
def readDigits : (value places : Nat) → (seen point : Bool) → List Char → Option (Nat × Nat × Bool × List Char)
  | value, places, seen, _, [] => some (value, places, seen, [])
  | value, places, seen, point, c :: rest =>
    if c = '.' then
      if point then none else readDigits value places seen true rest
    else
      match Text.digitValue? c with
      | some d => readDigits (10 * value + d) (if point then places + 1 else places) true point rest
      | none => some (value, places, seen, c :: rest)

def readExponent (chars : List Char) : Option Int :=
  let (negative, digits) := match chars with
    | '-' :: rest => (true, rest)
    | '+' :: rest => (false, rest)
    | _ => (false, chars)
  if digits.isEmpty then none
  else
    (digits.foldlM (fun value c => (Text.digitValue? c).map (10 * value + ·)) 0).map fun n : Nat =>
      if negative then -(n : Int) else n

/-- Reads a decimal: a number with an optional exponent, an infinity, or a NaN with its payload. -/
def ofText? (source : String) : Option Decimal :=
  let chars := (Text.trim source.toList).filter (· ≠ '_')
  let (negative, body) := match chars with
    | '-' :: rest => (true, rest)
    | '+' :: rest => (false, rest)
    | _ => (false, chars)
  let word := String.ofList (Text.lower body)
  if word = "inf" || word = "infinity" then some (.infinite negative)
  else if "nan".toList.isPrefixOf word.toList && (word.toList.drop 3).all Char.isDigit then
    some (.nan negative false (String.ofList (word.toList.drop 3)))
  else if "snan".toList.isPrefixOf word.toList && (word.toList.drop 4).all Char.isDigit then
    some (.nan negative true (String.ofList (word.toList.drop 4)))
  else
    match readDigits 0 0 false false body with
    | some (value, places, true, []) => some (.finite negative value (-(places : Int)))
    | some (value, places, true, mark :: rest) =>
      if mark = 'e' || mark = 'E' then
        (readExponent rest).map fun e => .finite negative value (e - places)
      else none
    | _ => none

example : (ofText? "1.50").map text = some "1.50" := by decide +kernel
example : (ofText? "1E+3").map text = some "1E+3" := by decide +kernel

end Decimal

end DataGrid
