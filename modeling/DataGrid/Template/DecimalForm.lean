import DataGrid.Template.Number

/-!
Decimals in the forms that a row template asks for. A decimal keeps the zeros at its end, so its digits
are rounded where the precision says and never filled up by the form without one.
-/

namespace DataGrid.Template

def invalidFormat : Error := .badValue "invalid format string"

/-- What a place asks for when it holds a decimal, and whether zeros fill up the digits. -/
structure DecimalSpec where
  spec : Spec
  letter : Char
  zeros : Bool

namespace DecimalSpec

def readDigits (chars : List Char) : Except Error (Nat × List Char) :=
  let digits := chars.takeWhile Char.isDigit
  let n := digits.foldl (fun n c => 10 * n + (c.toNat - 0x30)) 0
  if Spec.largest < n then .error invalidFormat else .ok (n, chars.drop digits.length)

def parse (chars : List Char) : Except Error DecimalSpec := do
  let (fill, align, rest) := Spec.readAlign chars
  let (sign, rest) := match rest with
    | c :: more => if Spec.isSign c then (some c, more) else (none, rest)
    | [] => (none, [])
  let (dropsNegativeZero, rest) := Spec.readMark 'z' rest
  let (alternate, rest) := Spec.readMark '#' rest
  let (zeros, rest) := Spec.readMark '0' rest
  if zeros && align.isSome then throw invalidFormat
  if rest.head? = some '0' then throw invalidFormat
  let (width, rest) ← readDigits rest
  let (comma, rest) := Spec.readMark ',' rest
  let (precision, rest) ← match rest with
    | '.' :: more => do
      if !(more.head?.map Char.isDigit).getD false then throw invalidFormat
      let (n, more) ← readDigits more
      pure (some n, more)
    | _ => pure (none, rest)
  let letter ← match rest with
    | [] => pure 'G'
    | [c] => if "eEfFgGnN%".toList.contains c then pure c else throw invalidFormat
    | _ => throw invalidFormat
  if comma && letter.toLower = 'n' then throw invalidFormat
  if alternate && letter = 'N' then throw invalidFormat
  return {
    spec := {
      fill := fill.getD (if zeros then '0' else ' ')
      align := if zeros then '=' else align.getD '>'
      sign := sign
      dropsNegativeZero := dropsNegativeZero
      alternate := alternate
      width := some width
      grouping := if comma then .comma else .none
      precision := precision
      letter := some letter }
    letter := if letter = 'n' then 'g' else if letter = 'N' then 'G' else letter
    zeros := zeros }

end DecimalSpec

/-- Digits cut to a number of places and rounded, a half going to the even neighbour; digits that are
not there count as zeros. -/
def rescaled (digits : Nat) (exponent target : Int) : Nat :=
  if target ≤ exponent then digits * Nat.pow 10 (exponent - target).toNat
  else Double.nearestQuotient digits (Nat.pow 10 (target - exponent).toNat)

/-- A coefficient of exactly `count` digits and its exponent. -/
def filledTo (count digits : Nat) (exponent : Int) : Nat × Int :=
  let (digits, exponent) := Decimal.roundedTo count digits exponent
  let missing := count - (Nat.toDigits 10 digits).length
  (digits * Nat.pow 10 missing, exponent - missing)

def decimalParts (letter : Char) (precision : Option Nat) (digits : Nat) (exponent : Int) : Nat × Int :=
  let exponent := if letter = '%' then exponent + 2 else exponent
  let (digits, exponent) := match letter.toLower, precision with
    | _, none => (digits, exponent)
    | 'e', some places => if digits = 0 then (0, exponent) else filledTo (places + 1) digits exponent
    | 'g', some places => if digits = 0 then (0, exponent) else Decimal.roundedTo (max places 1) digits exponent
    | _, some places => (rescaled digits exponent (-places), -(places : Int))
  if digits = 0 && 0 < exponent && "fF%".toList.contains letter then (0, 0) else (digits, exponent)

def decimalForm (letter : Char) (keepPoint : Bool) (precision : Option Nat) (digits : Nat) (exponent : Int) :
    List Char × List Char :=
  let (value, exponent) := decimalParts letter precision digits exponent
  let chars := Nat.toDigits 10 value
  let left := exponent + chars.length
  let point : Int := match letter.toLower with
    | 'e' => if value = 0 && precision.isSome then 1 - (precision.getD 0 : Int) else 1
    | 'g' => if exponent ≤ 0 && -6 < left then left else 1
    | _ => left
  let whole := if point ≤ 0 then ['0'] else chars.take point.toNat ++ List.replicate (point - chars.length).toNat '0'
  let part := if point < 0 then List.replicate (-point).toNat '0' ++ chars else chars.drop point.toNat
  let shown := left - point
  let mark := if shown ≠ 0 || letter.toLower = 'e' then
      (if letter.isUpper then 'E' else 'e') :: (if shown < 0 then '-' else '+') :: Nat.toDigits 10 shown.natAbs
    else []
  (whole, fraction keepPoint part ++ mark ++ (if letter = '%' then ['%'] else []))

def formatDecimal (chars : List Char) (d : Decimal) : Except Error (List Char) := do
  let asked ← DecimalSpec.parse chars
  asked.spec.checkWidth
  match d with
  | .finite negative digits exponent =>
    let letter := asked.letter.toLower
    if letter ≠ 'g' then checkMemory (asked.spec.precision.getD 0)
    if letter = 'f' || letter = '%' then checkMemory exponent.natAbs
    let form := decimalForm asked.letter asked.spec.alternate asked.spec.precision digits exponent
    let negative := negative && !(asked.spec.dropsNegativeZero && showsZero form)
    return NumberText.layoutWith asked.zeros asked.spec ⟨negative, [], form.1, form.2⟩
  | special =>
    let spec := if asked.zeros then { asked.spec with fill := ' ', align := '>' } else asked.spec
    let word := special.text.toList
    let (negative, word) := match word with
      | '-' :: rest => (true, rest)
      | _ => (false, word)
    return NumberText.layout spec ⟨negative, [], [], word ++ (if asked.letter = '%' then ['%'] else [])⟩

end DataGrid.Template
