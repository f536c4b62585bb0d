import DataGrid.Value.Display
import DataGrid.Error

/-!
Templates with percent places, filled with texts from left to right. A place may ask for a least width,
a greatest length, the quoted form or a single character; a doubled percent sign is a plain one. All
texts have to be used, and no more places than texts may be there.
-/

namespace DataGrid.Template

structure Place where
  alignLeft : Bool
  width : Option Nat
  longest : Option Nat
  letter : Char
  rest : List Char

def isFlag (c : Char) : Bool := c = '-' || c = '+' || c = ' ' || c = '#' || c = '0'

def largestWidth : Nat := 0x7fffffffffffffff

def largestLength : Nat := 0x7fffffff

def incomplete : Error := .badValue "incomplete format"

def sizeOf (what : String) (largest : Nat) (digits : List Char) : Except Error Nat :=
  if largest < digitsNumber digits then .error (.badValue (what ++ " too big")) else .ok (digitsNumber digits)

def readLongest (chars : List Char) : Except Error (Option Nat × List Char) :=
  match chars with
  | '.' :: '*' :: _ => .error .wrongType
  | '.' :: after => do
    let digits := after.takeWhile Char.isDigit
    return (some (← sizeOf "precision" largestLength digits), after.drop digits.length)
  | _ => .ok (none, chars)

/-- A place after its percent sign. A size taken from the texts, or a text by its name, is refused. -/
def readPlace (chars : List Char) : Except Error Place :=
  match chars with
  | '(' :: _ => .error .wrongType
  | _ => do
    let flags := chars.takeWhile isFlag
    let chars := chars.drop flags.length
    match chars with
    | '*' :: _ => .error .wrongType
    | _ =>
      let digits := chars.takeWhile Char.isDigit
      let width ← sizeOf "width" largestWidth digits
      let (longest, chars) ← readLongest (chars.drop digits.length)
      let chars := match chars with
        | c :: rest => if c = 'h' || c = 'l' || c = 'L' then rest else chars
        | [] => []
      match chars with
      | [] => .error incomplete
      | letter :: rest =>
        return ⟨flags.contains '-', if digits.isEmpty then none else some width, longest, letter, rest⟩

def numberLetters : List Char := "diouxXeEfFgG".toList

/-- A text as its place asks for it; `index` is where the letter stands. -/
def fillPlace (place : Place) (index : Nat) (content : String) : Except Error (List Char) := do
  let shown ←
    if place.letter = 's' then .ok content.toList
    else if place.letter = 'r' then .ok (quoted content).toList
    else if place.letter = 'a' then .ok (quotedAscii content).toList
    else if place.letter = 'c' then if content.length = 1 then .ok content.toList else .error .wrongType
    else if numberLetters.contains place.letter then .error .wrongType
    else
      let visible := if 31 ≤ place.letter.toNat && place.letter.toNat ≤ 126 then place.letter else '?'
      .error (.badValue ("unsupported format character '" ++ String.ofList [visible] ++ "' (0x" ++
        String.ofList (Nat.toDigits 16 place.letter.toNat) ++ ") at index " ++ intText index))
  let cut := match place.longest with
    | some n => shown.take n
    | none => shown
  checkMemory (place.width.getD 0)
  let padding := List.replicate ((place.width.getD 0) - cut.length) ' '
  return if place.alignLeft then cut ++ padding else padding ++ cut

/-- Fills the places of a template of `size` characters; `fuel` bounds what is left of it. -/
def fillFrom (size : Nat) : (fuel : Nat) → List Char → List String → Except Error (List Char)
  | 0, _, _ => .ok []
  | _ + 1, [], texts => if texts.isEmpty then .ok [] else .error .wrongType
  | fuel + 1, c :: rest, texts => do
    if c ≠ '%' then return c :: (← fillFrom size fuel rest texts)
    else if rest.head? = some '%' then return '%' :: (← fillFrom size fuel (rest.drop 1) texts)
    else
      let place ← readPlace rest
      match texts with
      | [] => .error .wrongType
      | content :: others =>
        let filled ← fillPlace place (size - place.rest.length - 1) content
        return filled ++ (← fillFrom size fuel place.rest others)

def fill (template : String) (texts : List String) : Except Error String :=
  return String.ofList (← fillFrom template.length (template.length + 1) template.toList texts)

end DataGrid.Template
