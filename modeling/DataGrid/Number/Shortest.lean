import DataGrid.Number.Double

/-!
The fewest decimal digits that read back as the same double, and of those the nearest. The reals
that round to `m * 2 ^ q` fill an interval, its ends included when `m` is even; on each decimal
grid, coarsest first, only the two neighbours of the value can be the first to lie inside.
-/

namespace DataGrid.Double

/-- The ends of the interval that rounds to `m * 2 ^ q`, in units of `2 ^ (q - 2)`. Below a power of
two the neighbouring double is only half as far away. -/
def bounds (m : Nat) (q : Int) : Nat × Nat :=
  (if m = Nat.pow 2 52 && -1074 < q then 4 * m - 1 else 4 * m - 2, 4 * m + 2)

/-- `2 ^ a / 10 ^ b` as a quotient. -/
def gridUnit (a b : Int) : Nat × Nat :=
  ((if 0 ≤ a then Nat.pow 2 a.toNat else 1) * (if 0 ≤ b then 1 else Nat.pow 10 (-b).toNat),
    (if 0 ≤ a then 1 else Nat.pow 2 (-a).toNat) * (if 0 ≤ b then Nat.pow 10 b.toNat else 1))

/-- Whether the grid point `c * 10 ^ k` rounds to `m * 2 ^ q`. -/
def roundsTo (m : Nat) (q : Int) (c : Nat) (k : Int) : Bool :=
  let (low, high) := bounds m q
  let (num, den) := gridUnit (q - 2) k
  let point := c * den
  if m % 2 = 0 then low * num ≤ point && point ≤ high * num else low * num < point && point < high * num

/-- The neighbours of `m * 2 ^ q` on the grid of `10 ^ k`, the nearer one first. -/
def neighbours (m : Nat) (q k : Int) : List Nat :=
  let (num, den) := gridUnit q k
  let below := m * num / den
  let rest := m * num % den
  if 2 * rest < den || (2 * rest = den && below % 2 = 0) then [below, below + 1] else [below + 1, below]

/-- The first grid of `10 ^ (top - n)`, from `n` on, with a point that rounds to `m * 2 ^ q`. -/
def shortestFrom (m : Nat) (q top : Int) : (fuel : Nat) → (n : Nat) → Nat × Int
  | 0, n => (((neighbours m q (top - n)).head?).getD 0, top - n)
  | fuel + 1, n =>
    match (neighbours m q (top - n)).find? fun c => roundsTo m q c (top - n) with
    | some c => (c, top - n)
    | none => shortestFrom m q top fuel (n + 1)

/-- Digits and exponent of the shortest decimal that reads back as `m * 2 ^ q`, for `0 < m`. -/
def shortest (m : Nat) (q : Int) : Nat × Int :=
  let (num, den) := gridUnit q 0
  let top : Int := ((Nat.toDigits 10 (m * num)).length : Int) - (Nat.toDigits 10 den).length + 1
  shortestFrom m q top 18 1

def dropZeros : (fuel : Nat) → Nat × Int → Nat × Int
  | 0, point => point
  | fuel + 1, (c, k) => if c ≠ 0 && c % 10 = 0 then dropZeros fuel (c / 10, k + 1) else (c, k)

/-- The shortest digits as characters, and the place of the decimal point: the number is
`0.d₁d₂… * 10 ^ point`. -/
def shortestDigits (m : Nat) (q : Int) : List Char × Int :=
  if m = 0 then (['0'], 1)
  else
    let (c, k) := dropZeros 20 (shortest m q)
    let digits := Nat.toDigits 10 c
    (digits, digits.length + k)

example : shortestDigits 0x1999999999999a (-56) = (['1'], 0) := by decide +kernel
example : shortestDigits 1 (-1074) = (['5'], -323) := by decide +kernel

end DataGrid.Double
