import DataGrid.Error
import DataGrid.Value

/-!
Equality and order of values. Numbers compare by value whatever their kind, times by the instant that
they mean, records whatever the order of their fields, and rows by their values alone. A signaling
number refuses every comparison with a number, and values of different kinds have no order.
-/

namespace DataGrid.Value

inductive Magnitude where
  | nan
  | infinite (negative : Bool)
  | quotient (num : Int) (den : Nat)
  | scaled (negative : Bool) (coefficient : Nat) (exponent : Int)

def magnitude? : Value → Option Magnitude
  | .bool flag => some (.quotient (if flag then 1 else 0) 1)
  | .int n => some (.quotient n 1)
  | .float .nan | .decimal (.nan ..) => some .nan
  | .float (.infinite negative) | .decimal (.infinite negative) => some (.infinite negative)
  | .float (.finite negative m q) => (Double.toQuotient? (.finite negative m q)).map fun (num, den) => .quotient num den
  | .decimal (.finite negative c e) =>
    let (c, e) := Decimal.reduced c e
    some (if c = 0 then .quotient 0 1 else .scaled negative c e)
  | _ => none

/-- No quotient that is compared is as large as this power of ten, or as close to zero as its inverse. -/
def farExponent : Int := 5000

def compareScaled (c : Nat) (e : Int) (num den : Nat) : Ordering :=
  let top := Decimal.topExponent c e
  if farExponent < top then .gt
  else if top < -farExponent then .lt
  else compare (c * Nat.pow 10 e.toNat * den) (num * Nat.pow 10 (-e).toNat)

def Magnitude.sign : Magnitude → Int
  | .nan => 0
  | .infinite negative => if negative then -1 else 1
  | .quotient num _ => num.sign
  | .scaled negative _ _ => if negative then -1 else 1

def Magnitude.order (x y : Magnitude) : Option Ordering :=
  let upright (o : Ordering) : Ordering := if x.sign < 0 then o.swap else o
  match x, y with
  | .nan, _ | _, .nan => none
  | .infinite a, .infinite b => some (compare b.toNat a.toNat)
  | .infinite negative, _ => some (if negative then .lt else .gt)
  | _, .infinite negative => some (if negative then .gt else .lt)
  | .quotient a b, .quotient c d => some (compare (a * d) (c * b))
  | x, y =>
    if x.sign ≠ y.sign then some (compare x.sign y.sign)
    else
      match x, y with
      | .scaled _ c e, .scaled _ d f => some (upright (Decimal.compareMagnitudes c e d f))
      | .scaled _ c e, .quotient num den => some (upright (compareScaled c e num.natAbs den))
      | .quotient num den, .scaled _ c e => some (upright (compareScaled c e num.natAbs den).swap)
      | _, _ => none

def isDecimal : Value → Bool
  | .decimal _ => true
  | _ => false

def isSignaling : Value → Bool
  | .decimal (.nan _ signaling _) => signaling
  | _ => false

def Magnitude.isNan : Magnitude → Bool
  | .nan => true
  | _ => false

/-- The order of two numbers, if both values are numbers. Where decimals are ordered, what is not a number
is refused. -/
def numberOrder? (ordering : Bool) (x y : Value) : Except Error (Option (Option Ordering)) :=
  match x.magnitude?, y.magnitude? with
  | some a, some b =>
    let strict := ordering && (x.isDecimal || y.isDecimal)
    if x.isSignaling || y.isSignaling || strict && (a.isNan || b.isNan) then .error .signaledNumber
    else .ok (some (a.order b))
  | _, _ => .ok none

def equalScalars (x y : Value) : Except Error Bool :=
  match x, y with
  | .null, .null => .ok true
  | .text a, .text b => .ok (a == b)
  | .bytes a, .bytes b => .ok (a == b)
  | .moment a, .moment b => .ok (a.same b)
  | .uuid a, .uuid b => .ok (a == b)
  | x, y => return (← numberOrder? false x y) == some (some .eq)

mutual

def equal : Value → Value → Except Error Bool
  | .list xs, .list ys => if xs.length = ys.length then equalItems xs ys else .ok false
  | .object xs, .object ys => if xs.length = ys.length then equalFields xs ys else .ok false
  | .row xs, .row ys => equalCells xs ys
  | x, y => equalScalars x y

def equalItems : List Value → List Value → Except Error Bool
  | [], [] => .ok true
  | x :: xs, y :: ys => do if ← equal x y then equalItems xs ys else return false
  | _, _ => .ok false

/-- Whether each field has an equal one of its name in `ys`. -/
def equalFields : List (String × Value) → List (String × Value) → Except Error Bool
  | [], _ => .ok true
  | (key, x) :: xs, ys =>
    match field? ys key with
    | some y => do if ← equal x y then equalFields xs ys else return false
    | none => .ok false

def equalCells : List (String × Value) → List (String × Value) → Except Error Bool
  | [], [] => .ok true
  | (_, x) :: xs, (_, y) :: ys => do if ← equal x y then equalCells xs ys else return false
  | _, _ => .ok false

end

def same (x y : Value) : Bool :=
  match equal x y with
  | .ok answer => answer
  | .error _ => false

/-- The order of two runs of numbers: by the first that differ, then by their size. -/
def compareRuns : List Nat → List Nat → Ordering
  | [], [] => .eq
  | [], _ => .lt
  | _, [] => .gt
  | a :: as, b :: bs => (compare a b).then (compareRuns as bs)

/-- The order of values that hold no others; none when nothing is before or after a number. -/
def orderScalars (x y : Value) : Except Error (Option Ordering) :=
  match x, y with
  | .text a, .text b => .ok (some (compare a b))
  | .bytes a, .bytes b => .ok (some (compareRuns (a.map (·.toNat)) (b.map (·.toNat))))
  | .moment a, .moment b => if a.ordered b then .ok (some (compare a.instant b.instant)) else .error .wrongType
  | .uuid a, .uuid b => .ok (some (compare a b))
  | x, y => do
    match ← numberOrder? true x y with
    | some answer => return answer
    | none => throw .wrongType

mutual

/-- The order of two values: lists and rows go by the first items that differ, then by their size. -/
def order : Value → Value → Except Error (Option Ordering)
  | .list xs, .list ys => orderItems xs ys
  | .row xs, .row ys => orderCells xs ys
  | x, y => orderScalars x y

def orderItems : List Value → List Value → Except Error (Option Ordering)
  | [], [] => .ok (some .eq)
  | [], _ => .ok (some .lt)
  | _, [] => .ok (some .gt)
  | x :: xs, y :: ys => do if ← equal x y then orderItems xs ys else order x y

def orderCells : List (String × Value) → List (String × Value) → Except Error (Option Ordering)
  | [], [] => .ok (some .eq)
  | [], _ => .ok (some .lt)
  | _, [] => .ok (some .gt)
  | (_, x) :: xs, (_, y) :: ys => do if ← equal x y then orderCells xs ys else order x y

end

def before (x y : Value) : Except Error Bool := return (← order x y) == some .lt

end DataGrid.Value
