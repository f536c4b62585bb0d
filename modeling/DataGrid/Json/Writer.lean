import DataGrid.Value.Display
import DataGrid.Text.Encoding
import DataGrid.Error

/-!
Writing values as JSON text in ASCII: what is beyond ASCII is escaped by its UTF-16 units. Decimals
become numbers, moments and identifiers texts, bytes the text that they encode, and rows objects. An
integer of too many digits has no text here either, and only so many values fit around one another.
-/

namespace DataGrid.Json

def unitEscape (n : Nat) : List Char := ['\\', 'u'] ++ hexDigits 4 n

def escapeLetters : List (Char × Char) :=
  [('"', '"'), ('\\', '\\'), ('\x08', 'b'), ('\x0c', 'f'), ('\n', 'n'), ('\r', 'r'), ('\t', 't')]

def escapeChar (c : Char) : List Char :=
  let n := (Text.surrogateOf? c).getD c.toNat
  match escapeLetters.lookup c with
  | some letter => ['\\', letter]
  | none =>
    if 0x20 ≤ n ∧ n < 0x7F then [c]
    else if n < 0x10000 then unitEscape n
    else unitEscape (0xD800 + (n - 0x10000) / 0x400) ++ unitEscape (0xDC00 + (n - 0x10000) % 0x400)

def writeText (s : String) : String := String.ofList ('"' :: s.toList.flatMap escapeChar ++ ['"'])

def writeDouble : Double → String
  | .nan => "NaN"
  | .infinite negative => if negative then "-Infinity" else "Infinity"
  | x => x.text

mutual

/-- The text of a value inside `depth` others. -/
def writeWithin (depth : Nat) : Value → Except Error String
  | .null => .ok "null"
  | .bool flag => .ok (if flag then "true" else "false")
  | .int n => if isTooLong n then .error (.badValue (digitLimitReason none)) else .ok (intText n)
  | .float x => .ok (writeDouble x)
  | .text s => .ok (writeText s)
  | .bytes content =>
    match Text.decodeUtf8 false content with
    | some chars => .ok (writeText (String.ofList chars))
    | none => .error .undecodable
  | .decimal d =>
    match d.toDouble? with
    | some x => .ok (writeDouble x)
    | none => .error (.badValue "cannot convert signaling NaN to float")
  | .moment point => .ok (writeText point.iso)
  | .uuid canonical => .ok (writeText canonical)
  | .foreign => .error .wrongType
  | .list items =>
    if depth < stepLimit then (writeItems (depth + 1) items).map (bracketed "[" "]") else .error .tooDeep
  | .object fields | .row fields =>
    if depth < stepLimit then (writeFields (depth + 1) fields).map (bracketed "\x7b" "\x7d") else .error .tooDeep

def writeItems (depth : Nat) : List Value → Except Error (List String)
  | [] => .ok []
  | item :: rest => return (← writeWithin depth item) :: (← writeItems depth rest)

def writeFields (depth : Nat) : List (String × Value) → Except Error (List String)
  | [] => .ok []
  | (key, value) :: rest =>
    return (writeText key ++ ": " ++ (← writeWithin depth value)) :: (← writeFields depth rest)

end

def write (value : Value) : Except Error String := writeWithin 0 value

end DataGrid.Json
