import DataGrid.Number.Shortest

/-!
The text of a number. An integer is its decimal digits; a double is written with the fewest digits
that read back, positionally when its decimal exponent is from -4 to 15 and with an exponent of at
least two digits otherwise.
-/

namespace DataGrid

def intText (n : Int) : String :=
  String.ofList ((if n < 0 then ['-'] else []) ++ Nat.toDigits 10 n.natAbs)

def digitsNumber (digits : List Char) : Nat := digits.foldl (fun n c => 10 * n + (c.toNat - 0x30)) 0

def filled (fill : Char) (width n : Nat) : List Char :=
  let digits := Nat.toDigits 10 n
  List.replicate (width - digits.length) fill ++ digits

/-- The most decimal digits that an integer is read from or written with. -/
def digitLimit : Nat := 4300

/-- Why an integer has no decimal text, or a text of so many digits no integer. -/
def digitLimitReason (digits : Option Nat) : String :=
  "Exceeds the limit (4300 digits) for integer string conversion" ++
    (digits.map fun n => s!": value has {n} digits").getD "" ++
    "; use sys.set_int_max_str_digits() to increase the limit"

def isTooLong (n : Int) : Bool := decide (Nat.pow 10 digitLimit ≤ n.natAbs)

namespace Double

def exponentText (mark : Char) (e : Int) : List Char :=
  let digits := Nat.toDigits 10 e.natAbs
  mark :: (if e < 0 then '-' else '+') :: (if digits.length < 2 then '0' :: digits else digits)

/-- Digits with a point after the first `point` of them; zeros fill up on either side. -/
def positional (digits : List Char) (point : Int) : List Char :=
  if point ≤ 0 then '0' :: '.' :: (List.replicate (-point).toNat '0' ++ digits)
  else if digits.length ≤ point then digits ++ List.replicate (point.toNat - digits.length) '0' ++ ['.', '0']
  else digits.take point.toNat ++ '.' :: digits.drop point.toNat

def scientific (digits : List Char) (point : Int) : List Char :=
  match digits with
  | [] => []
  | [d] => d :: exponentText 'e' (point - 1)
  | d :: rest => d :: '.' :: rest ++ exponentText 'e' (point - 1)

def text : Double → String
  | .nan => "nan"
  | .infinite negative => if negative then "-inf" else "inf"
  | .finite negative m q =>
    let (digits, point) := shortestDigits m q
    let body := if -4 < point && point ≤ 16 then positional digits point else scientific digits point
    String.ofList (if negative then '-' :: body else body)

example : (Double.round false 1 10).text = "0.1" := by decide +kernel
example : (Double.ofInt 10000000000000000).text = "1e+16" := by decide +kernel
example : (Double.zero true).text = "-0.0" := by decide +kernel

end Double

end DataGrid
