import DataGrid.Error
import DataGrid.Text.Class

/-!
What a place of a row template asks for after its colon: fill and alignment, sign, least width, marks
between groups of digits, precision, and a letter for the form.
-/

namespace DataGrid.Template

inductive Grouping where
  | none | comma | lowLine
  deriving DecidableEq, Repr

structure Spec where
  fill : Char := ' '
  /-- One of `<`, `>`, `^` and `=`, the last one padding after the sign. -/
  align : Char
  sign : Option Char := none
  dropsNegativeZero : Bool := false
  alternate : Bool := false
  width : Option Nat := none
  grouping : Grouping := .none
  precision : Option Nat := none
  letter : Option Char

namespace Spec

def isAlign (c : Char) : Bool := c = '<' || c = '>' || c = '=' || c = '^'

def isSign (c : Char) : Bool := c = ' ' || c = '+' || c = '-'

def largest : Nat := 0x7fffffffffffffff

/-- Reads a number of decimal digits of any script, none without a digit. -/
def readNumber (chars : List Char) : Except Error (Option Nat × List Char) :=
  let digits := chars.takeWhile fun c => (Text.digitValue? c).isSome
  if digits.isEmpty then .ok (none, chars)
  else
    let n := digits.foldl (fun n c => 10 * n + (Text.digitValue? c).getD 0) 0
    if largest < n then .error (.badValue "Too many decimal digits in format string")
    else .ok (some n, chars.drop digits.length)

def readAlign (chars : List Char) : Option Char × Option Char × List Char :=
  match chars with
  | fill :: align :: rest =>
    if isAlign align then (some fill, some align, rest)
    else if isAlign fill then (none, some fill, align :: rest)
    else (none, none, chars)
  | align :: [] => if isAlign align then (none, some align, []) else (none, none, chars)
  | [] => (none, none, [])

def readMark (mark : Char) (chars : List Char) : Bool × List Char :=
  match chars with
  | c :: rest => if c = mark then (true, rest) else (false, chars)
  | [] => (false, chars)

def mixedMarks : Error := .badValue "Cannot specify both ',' and '_'."

def readGrouping (chars : List Char) : Except Error (Grouping × List Char) :=
  match chars with
  | ',' :: '_' :: _ | '_' :: ',' :: _ => .error mixedMarks
  | ',' :: rest => .ok (.comma, rest)
  | '_' :: rest => .ok (.lowLine, rest)
  | _ => .ok (.none, chars)

/-- A character as an error text shows it: by its number unless it is printable ASCII. -/
def showLetter (c : Char) : String :=
  if 32 < c.toNat && c.toNat < 128 then String.ofList [c] else "\\x" ++ String.ofList (Nat.toDigits 16 c.toNat)

def checkGrouping (grouping : Grouping) (letter : Option Char) : Except Error Unit :=
  match letter with
  | none => .ok ()
  | some c =>
    let mark := if grouping = .comma then "," else "_"
    if grouping = .none || "defgEG%F".toList.contains c then .ok ()
    else if grouping = .lowLine && "boxX".toList.contains c then .ok ()
    else .error (.badValue ("Cannot specify '" ++ mark ++ "' with '" ++ showLetter c ++ "'."))

def parse (typeName : String) (letter : Option Char) (align : Char) (chars : List Char) : Except Error Spec := do
  let (fill, given, rest) := readAlign chars
  let (sign, rest) := match rest with
    | c :: more => if isSign c then (some c, more) else (none, rest)
    | [] => (none, [])
  let (dropsNegativeZero, rest) := readMark 'z' rest
  let (alternate, rest) := readMark '#' rest
  let (zeros, rest) := if fill.isNone then readMark '0' rest else (false, rest)
  let (width, rest) ← readNumber rest
  let (grouping, rest) ← readGrouping rest
  let (precision, rest) ← match rest with
    | '.' :: more => do
      let (digits, more) ← readNumber more
      if digits.isNone then throw (.badValue "Format specifier missing precision")
      pure (digits, more)
    | _ => pure (none, rest)
  let letter ← match rest with
    | [] => pure letter
    | [c] => pure (some c)
    | _ =>
      throw (.badValue
        ("Invalid format specifier '" ++ String.ofList chars ++ "' for object of type '" ++ typeName ++ "'"))
  checkGrouping grouping letter
  return {
    fill := fill.getD (if zeros then '0' else ' ')
    align := given.getD (if zeros && align = '>' then '=' else align)
    sign := sign
    dropsNegativeZero := dropsNegativeZero
    alternate := alternate
    width := width
    grouping := grouping
    precision := precision
    letter := letter }

def unknownLetter (typeName : String) (c : Char) : Error :=
  .badValue ("Unknown format code '" ++ showLetter c ++ "' for object of type '" ++ typeName ++ "'")

def checkWidth (spec : Spec) : Except Error Unit := checkMemory (spec.width.getD 0)

def pad (spec : Spec) (align : Char) (content : List Char) : List Char :=
  let missing := spec.width.getD 0 - content.length
  let left := if align = '>' then missing else if align = '^' then missing / 2 else 0
  List.replicate left spec.fill ++ content ++ List.replicate (missing - left) spec.fill

end Spec

end DataGrid.Template
