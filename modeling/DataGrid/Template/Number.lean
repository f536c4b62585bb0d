import DataGrid.Template.Spec
import DataGrid.Number.Decimal

/-!
Numbers in the forms that a row template asks for. The digits come from the exact value, rounded once
with halves going to the even neighbour; signs, padding and the marks between groups of digits are the
same for all kinds of numbers.
-/

namespace DataGrid.Template

/-- A number in parts: sign, what stands before the digits, digits to be grouped, and what follows. -/
structure NumberText where
  negative : Bool
  lead : List Char := []
  digits : List Char
  tail : List Char

/-- Digits, least first, in groups with marks between them, zeros filling up to a least width. The
first group is `size` digits at most. -/
def groupDigits (mark : Char) (size : Nat) : (fuel : Nat) → (width : Int) → List Char → List Char
  | 0, _, digits => digits
  | fuel + 1, width, digits =>
    let take := min size (max (max digits.length width.toNat) 1)
    let group := digits.take take ++ List.replicate (take - digits.length) '0'
    let rest := digits.drop take
    let width := width - take
    if rest.isEmpty && width ≤ 0 then group else group ++ mark :: groupDigits mark size fuel (width - 1) rest

def grouped (spec : Spec) (width : Int) (digits : List Char) : List Char :=
  let size := if (spec.letter.map "boxX".toList.contains).getD false then 4 else 3
  let fuel := digits.length + width.toNat + 1
  match spec.grouping with
  | .none => List.replicate (width.toNat - digits.length) '0' ++ digits
  | .comma => (groupDigits ',' size fuel width digits.reverse).reverse
  | .lowLine => (groupDigits '_' size fuel width digits.reverse).reverse

def signText (spec : Spec) (negative : Bool) : List Char :=
  if negative then ['-']
  else match spec.sign with
    | some '+' => ['+']
    | some ' ' => [' ']
    | _ => []

/-- The parts of a number put together, padded to the width of the spec; `zeros` says whether zeros fill
up the digits before they are grouped. -/
def NumberText.layoutWith (zeros : Bool) (spec : Spec) (number : NumberText) : List Char :=
  let front := signText spec number.negative ++ number.lead
  let others : Int := front.length + number.tail.length
  let width : Int := if zeros then (spec.width.getD 0 : Int) - others else 0
  let digits := if number.digits.isEmpty then [] else grouped spec width number.digits
  let body := digits ++ number.tail
  if spec.align = '=' then
    let missing := spec.width.getD 0 - (front.length + body.length)
    front ++ List.replicate missing spec.fill ++ body
  else spec.pad spec.align (front ++ body)

def NumberText.layout (spec : Spec) (number : NumberText) : List Char :=
  layoutWith (spec.fill = '0' && spec.align = '=') spec number

/-- The largest power of ten that is not above `num / den`, between `-400` and `400`. -/
def decimalExponent (num den : Nat) : Int :=
  let rec search : (fuel : Nat) → Int → Int
    | 0, e => e
    | fuel + 1, e =>
      let below := if 0 ≤ e then den * Nat.pow 10 e.toNat ≤ num else den ≤ num * Nat.pow 10 (-e).toNat
      if below then e else search fuel (e - 1)
  search 800 (((Nat.toDigits 10 num).length : Int) - (Nat.toDigits 10 den).length + 1)

/-- `num / den` times a power of ten, rounded to an integer. -/
def scaledRound (num den : Nat) (power : Int) : Nat :=
  if 0 ≤ power then Double.nearestQuotient (num * Nat.pow 10 power.toNat) den
  else Double.nearestQuotient num (den * Nat.pow 10 (-power).toNat)

/-- `count` significant digits of `num / den` and the exponent of the first one. -/
def significantDigits (num den count : Nat) : List Char × Int :=
  if num = 0 then (List.replicate count '0', 0)
  else
    let e := decimalExponent num den
    let n := scaledRound num den (count - 1 - e)
    if n = Nat.pow 10 count then (Nat.toDigits 10 (Nat.pow 10 (count - 1)), e + 1) else (Nat.toDigits 10 n, e)

/-- The digits before and after the point of `num / den` with a number of places. -/
def fixedDigits (num den places : Nat) : List Char × List Char :=
  let digits := Nat.toDigits 10 (scaledRound num den places)
  let digits := List.replicate (places + 1 - digits.length) '0' ++ digits
  (digits.take (digits.length - places), digits.drop (digits.length - places))

/-- A fraction with its point; the point is left out when nothing follows, unless it is kept. -/
def fraction (keepPoint : Bool) (digits : List Char) : List Char :=
  if digits.isEmpty && !keepPoint then [] else '.' :: digits

def dropTrailingZeros (digits : List Char) : List Char := (digits.reverse.dropWhile (· = '0')).reverse

/-- A finite number `num / den` in the form of a letter, with a precision. -/
def formOf (letter : Char) (alternate : Bool) (precision num den : Nat) : List Char × List Char :=
  let mark := if letter.isUpper then 'E' else 'e'
  match letter.toLower with
  | 'f' =>
    let (whole, part) := fixedDigits num den precision
    (whole, fraction alternate part)
  | 'e' =>
    let (digits, e) := significantDigits num den (precision + 1)
    (digits.take 1, fraction alternate (digits.drop 1) ++ Double.exponentText mark e)
  | _ =>
    let count := max precision 1
    let (digits, e) := significantDigits num den count
    let trim (digits : List Char) : List Char := if alternate then digits else dropTrailingZeros digits
    if -4 ≤ e && e < count then
      if e < 0 then (['0'], fraction alternate (trim (List.replicate (-e - 1).toNat '0' ++ digits)))
      else (digits.take (e.toNat + 1), fraction alternate (trim (digits.drop (e.toNat + 1))))
    else (digits.take 1, fraction alternate (trim (digits.drop 1)) ++ Double.exponentText mark e)

/-- The shortest text of a finite double in parts; without a precision. -/
def shortestForm (x : Double) : List Char × List Char :=
  let chars := x.abs.text.toList
  (chars.takeWhile Char.isDigit, chars.dropWhile Char.isDigit)

/-- A double with a precision and no letter: as many digits as asked for, at least one after the point. -/
def pointedForm (alternate : Bool) (precision num den : Nat) : List Char × List Char :=
  let count := max precision 1
  let (_, e) := significantDigits num den count
  let (whole, tail) := formOf 'g' alternate precision num den
  if e + 1 = count then
    -- one digit after the point would be one too many
    let (digits, e) := significantDigits num den count
    let part := if alternate then digits.drop 1 else dropTrailingZeros (digits.drop 1)
    (digits.take 1, fraction alternate part ++ Double.exponentText 'e' e)
  else if tail.isEmpty then (whole, ['.', '0'])
  else if tail = ['.'] then (whole, ['.', '0'])
  else (whole, tail)

def showsZero (form : List Char × List Char) : Bool :=
  (form.1 ++ form.2.takeWhile fun c => !(['e', 'E', '%'].contains c)).all fun c => c = '0' || c = '.'

def largestPrecision : Nat := 0x7fffffff

def manyDigits : Nat := 1100

/-- The precision that shows as much as the given one: zeros at the end are shown only in some forms. -/
def usefulPrecision (spec : Spec) (precision : Nat) : Except Error Nat :=
  match spec.letter with
  | some letter =>
    if spec.alternate || "eEfF%".toList.contains letter then do
      checkMemory precision
      return precision
    else return min precision manyDigits
  | none => return min precision manyDigits

def fractionLetters : List Char := "eEfFgGn%".toList

def formatDouble (typeName : String) (spec : Spec) (x : Double) : Except Error (List Char) := do
  match spec.letter with
  | some c => if !fractionLetters.contains c then throw (Spec.unknownLetter typeName c)
  | none => pure ()
  if largestPrecision < spec.precision.getD 0 then throw (.badValue "precision too big")
  spec.checkWidth
  let spec := { spec with precision := ← spec.precision.mapM (usefulPrecision spec) }
  let percent := spec.letter = some '%'
  let x := if percent then x.mul (Double.ofInt 100) else x
  let capital := (spec.letter.map Char.isUpper).getD false
  let mark := if percent then ['%'] else []
  let word (s : String) : List Char := if capital then s.toList.map Char.toUpper else s.toList
  match x with
  | .nan => return NumberText.layout spec ⟨false, [], [], word "nan" ++ mark⟩
  | .infinite negative => return NumberText.layout spec ⟨negative, [], [], word "inf" ++ mark⟩
  | .finite negative _ _ =>
    let (num, den) := (x.abs.toQuotient?).getD (0, 1)
    let num := num.toNat
    let form := match spec.letter, spec.precision with
      | none, none =>
        let (whole, tail) := shortestForm x
        if spec.alternate && !tail.contains '.' then (whole, '.' :: tail) else (whole, tail)
      | none, some precision => pointedForm spec.alternate precision num den
      | some '%', precision => formOf 'f' spec.alternate (precision.getD 6) num den
      | some 'n', precision => formOf 'g' spec.alternate (precision.getD 6) num den
      | some letter, precision => formOf letter spec.alternate (precision.getD 6) num den
    let negative := negative && !(spec.dropsNegativeZero && showsZero form)
    return NumberText.layout spec ⟨negative, [], form.1, form.2 ++ mark⟩

def formatInt (typeName : String) (spec : Spec) (n : Int) : Except Error (List Char) := do
  let letter := spec.letter.getD 'd'
  if "eEfFgG%".toList.contains letter then
    match Double.ofInt n with
    | .infinite _ => throw (.tooLarge "int too large to convert to float")
    | x => formatDouble typeName spec x
  else if !"bcdoxXn".toList.contains letter then throw (Spec.unknownLetter typeName letter)
  else
    if spec.precision.isSome then throw (.badValue "Precision not allowed in integer format specifier")
    if spec.dropsNegativeZero then
      throw (.badValue "Negative zero coercion (z) not allowed in integer format specifier")
    if letter = 'c' then
      if spec.sign.isSome then throw (.badValue "Sign not allowed with integer format specifier 'c'")
      if spec.alternate then
        throw (.badValue "Alternate form (#) not allowed with integer format specifier 'c'")
      if n < -0x8000000000000000 || 0x8000000000000000 ≤ n then throw (.tooLarge "Python int too large to convert to C long")
      if n < 0 || 0x10FFFF < n then throw (.tooLarge "%c arg not in range(0x110000)")
      spec.checkWidth
      return NumberText.layout spec ⟨false, [], [], [Char.ofNat n.toNat]⟩
    spec.checkWidth
    let (base, lead) := match letter with
      | 'b' => (2, ['0', 'b'])
      | 'o' => (8, ['0', 'o'])
      | 'x' => (16, ['0', 'x'])
      | 'X' => (16, ['0', 'X'])
      | _ => (10, [])
    let digits := Nat.toDigits base n.natAbs
    let digits := if letter = 'X' then digits.map Char.toUpper else digits
    return NumberText.layout spec ⟨n < 0, if spec.alternate then lead else [], digits, []⟩

end DataGrid.Template
