/-!
Double-precision numbers as exact values: a finite one is a sign, a significand below `2 ^ 53` and a
power of two. `Double.round` gives the double nearest to a quotient, ties to the even significand.
-/

namespace DataGrid

/-- A double-precision number; `finite negative m q` stands for `± m * 2 ^ q`. -/
inductive Double where
  | nan
  | infinite (negative : Bool)
  | finite (negative : Bool) (significand : Nat) (exponent : Int)
  deriving DecidableEq, Inhabited, Repr

namespace Double

/-- The quotient `num / den` rounded to an integer, a half going to the even neighbour. -/
def nearestQuotient (num den : Nat) : Nat :=
  let below := num / den
  let twice := 2 * (num % den)
  if twice < den then below
  else if den < twice then below + 1
  else if below % 2 = 0 then below else below + 1

def zero (negative : Bool) : Double := .finite negative 0 (-1074)

/-- `num / (den * 2 ^ q)` as a pair of natural numbers. -/
def scaled (num den : Nat) (q : Int) : Nat × Nat :=
  if 0 ≤ q then (num, den * Nat.pow 2 q.toNat) else (num * Nat.pow 2 (-q).toNat, den)

/-- The double nearest to `± num / den`. -/
def round (negative : Bool) (num den : Nat) : Double :=
  if num = 0 then zero negative
  else
    let estimate : Int := max (-1074) ((Nat.log2 num : Int) - (Nat.log2 den : Int) - 52)
    let q : Int :=
      let (n, d) := scaled num den estimate
      if n / d < Nat.pow 2 52 && -1074 < estimate then estimate - 1 else estimate
    let (n, d) := scaled num den q
    let m := nearestQuotient n d
    let (m, q) := if m = Nat.pow 2 53 then (Nat.pow 2 52, q + 1) else (m, q)
    if 971 < q then .infinite negative else .finite negative m q

def ofInt (n : Int) : Double := round (n < 0) n.natAbs 1

/-- The double nearest to `± digits * 10 ^ exponent`; exponents far outside the range are cut off
before any power is computed. -/
def ofScientific (negative : Bool) (digits : Nat) (exponent : Int) : Double :=
  if digits = 0 then zero negative
  else
    let size := (Nat.toDigits 10 digits).length + exponent
    if 330 < size then .infinite negative
    else if size < -400 then zero negative
    else if 0 ≤ exponent then round negative (digits * Nat.pow 10 exponent.toNat) 1
    else round negative digits (Nat.pow 10 (-exponent).toNat)

def isZero : Double → Bool
  | .finite _ 0 _ => true
  | _ => false

def toQuotient? : Double → Option (Int × Nat)
  | .finite negative m q =>
    let magnitude : Int := if 0 ≤ q then m * Nat.pow 2 q.toNat else m
    some (if negative then -magnitude else magnitude, if 0 ≤ q then 1 else Nat.pow 2 (-q).toNat)
  | _ => none

def truncate? (x : Double) : Option Int :=
  x.toQuotient?.map fun (num, den) => Int.tdiv num den

def mul : Double → Double → Double
  | .nan, _ | _, .nan => .nan
  | .infinite a, .infinite b => .infinite (a != b)
  | .infinite a, .finite b m _ | .finite b m _, .infinite a => if m = 0 then .nan else .infinite (a != b)
  | .finite a m q, .finite b n r =>
    let e := q + r
    if 0 ≤ e then round (a != b) (m * n * Nat.pow 2 e.toNat) 1 else round (a != b) (m * n) (Nat.pow 2 (-e).toNat)

/-- The sum, rounded once; a sum of zeros is negative only if both are. -/
def add : Double → Double → Double
  | .nan, _ | _, .nan => .nan
  | .infinite a, .infinite b => if a = b then .infinite a else .nan
  | .infinite a, _ | _, .infinite a => .infinite a
  | .finite a m q, .finite b n r =>
    let low := min q r
    let term (negative : Bool) (m : Nat) (q : Int) : Int := (if negative then -1 else 1) * (m * Nat.pow 2 (q - low).toNat)
    let sum := term a m q + term b n r
    if sum = 0 then zero (a && b)
    else if 0 ≤ low then round (sum < 0) (sum.natAbs * Nat.pow 2 low.toNat) 1
    else round (sum < 0) sum.natAbs (Nat.pow 2 (-low).toNat)

def negate : Double → Double
  | .nan => .nan
  | .infinite negative => .infinite (!negative)
  | .finite negative m q => .finite (!negative) m q

def abs : Double → Double
  | .nan => .nan
  | .infinite _ => .infinite false
  | .finite _ m q => .finite false m q

example : round false 1 10 = .finite false 0x1999999999999a (-56) := by decide +kernel
example : round false 1 (Nat.pow 10 400) = zero false := by decide +kernel
example : ofScientific true 1 400 = .infinite true := by decide +kernel

end Double

end DataGrid
