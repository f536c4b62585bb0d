import DataGrid.Error
import DataGrid.Value
import DataGrid.Text.Class
import DataGrid.Text.Encoding
import DataGrid.Text.Hex

/-!
The two texts of a value: the plain one, as it is put into a pattern or a message, and the quoted one,
as it is shown inside a list or a log line. A text is quoted with single quotes unless it holds some
and no double quote; what is not printable is escaped by its number. A value with a number of too many
digits in it, or with too many values around one another, has neither.
-/

namespace DataGrid

/-- The quote around a text: the double one only when the text holds single quotes and no double one. -/
def quoteFor (chars : List Char) : Char :=
  if chars.contains '\'' && !chars.contains '"' then '"' else '\''

def numberEscape (c : Char) : List Char :=
  let n := (Text.surrogateOf? c).getD c.toNat
  if n < 0x100 then ['\\', 'x'] ++ hexDigits 2 n
  else if n < 0x10000 then ['\\', 'u'] ++ hexDigits 4 n
  else ['\\', 'U'] ++ hexDigits 8 n

def escapeLetters : List (Char × Char) := [('\n', 'n'), ('\r', 'r'), ('\t', 't')]

/-- A character inside the given quotes, where `plain` characters stand for themselves. -/
def escapeChar (quote : Char) (plain : Char → Bool) (c : Char) : List Char :=
  if c = quote || c = '\\' then ['\\', c]
  else
    match escapeLetters.lookup c with
    | some letter => ['\\', letter]
    | none => if plain c then [c] else numberEscape c

def quoteChars (plain : Char → Bool) (chars : List Char) : List Char :=
  let quote := quoteFor chars
  quote :: chars.flatMap (escapeChar quote plain) ++ [quote]

def quoted (s : String) : String := String.ofList (quoteChars Text.isPrintable s.toList)

/-- A quoted text in which all but the printable ASCII characters are escaped. -/
def quotedAscii (s : String) : String :=
  String.ofList (quoteChars (fun c => 0x20 ≤ c.toNat && c.toNat < 0x7F) s.toList)

def quotedBytes (content : List UInt8) : String :=
  let chars := content.map fun b => Char.ofNat b.toNat
  String.ofList ('b' :: quoteChars (fun c => 0x20 ≤ c.toNat && c.toNat < 0x7F) chars)

def bracketed (opening closing : String) (items : List String) : String :=
  opening ++ ", ".intercalate items ++ closing

def spanExpression (micros : Int) : String :=
  let (days, rest) := (micros.fdiv 86400000000, micros.fmod 86400000000)
  let named (name : String) (n : Int) : List String := if n = 0 then [] else [name ++ intText n]
  let parts := named "days=" days ++ named "seconds=" (rest / 1000000) ++ named "microseconds=" (rest % 1000000)
  bracketed "datetime.timedelta(" ")" (if parts.isEmpty then ["0"] else parts)

def offsetExpression (offset : Int) : String :=
  if offset = 0 then "datetime.timezone.utc" else "datetime.timezone(" ++ spanExpression offset ++ ")"

def momentExpression (moment : Moment) : String :=
  let date := [moment.year, moment.month, moment.day]
  let clock := [moment.hour, moment.minute] ++
    (if moment.micro ≠ 0 then [moment.second, moment.micro]
      else if moment.second ≠ 0 then [moment.second] else [])
  let (name, numbers) := match moment.kind with
    | .date => ("datetime.date(", date)
    | .dateTime => ("datetime.datetime(", date ++ clock)
    | .time => ("datetime.time(", clock)
  let zone := moment.offset.toList.map fun offset => "tzinfo=" ++ offsetExpression offset
  bracketed name ")" (numbers.map (fun n : Nat => intText n) ++ zone)

namespace Value

mutual

def shown : Value → String
  | .null => "None"
  | .bool flag => if flag then "True" else "False"
  | .int n => intText n
  | .float x => x.text
  | .text s => quoted s
  | .bytes content => quotedBytes content
  | .decimal d => "Decimal('" ++ d.text ++ "')"
  | .moment point => momentExpression point
  | .uuid canonical => "UUID('" ++ canonical ++ "')"
  | .foreign => "<object object>"
  | .list items => bracketed "[" "]" (shownItems items)
  | .object fields => bracketed "\x7b" "\x7d" (shownFields fields)
  | .row fields => "(" ++ ", ".intercalate (shownValues fields) ++ (if fields.length = 1 then ",)" else ")")

def shownItems : List Value → List String
  | [] => []
  | item :: rest => shown item :: shownItems rest

def shownFields : List (String × Value) → List String
  | [] => []
  | (key, value) :: rest => (quoted key ++ ": " ++ shown value) :: shownFields rest

def shownValues : List (String × Value) → List String
  | [] => []
  | (_, value) :: rest => shown value :: shownValues rest

end

def display : Value → String
  | .text s => s
  | .decimal d => d.text
  | .moment point => point.textWith ' '
  | .uuid canonical => canonical
  | value => value.shown

mutual

/-- Refuses a value inside `depth` others that has no text. -/
def checkWithin (depth : Nat) : Value → Except Error Unit
  | .int n => if isTooLong n then .error (.badValue (digitLimitReason none)) else .ok ()
  | .list items => if depth < stepLimit then checkItems (depth + 1) items else .error .tooDeep
  | .object fields | .row fields => if depth < stepLimit then checkFields (depth + 1) fields else .error .tooDeep
  | _ => .ok ()

def checkItems (depth : Nat) : List Value → Except Error Unit
  | [] => .ok ()
  | item :: rest => do
    checkWithin depth item
    checkItems depth rest

def checkFields (depth : Nat) : List (String × Value) → Except Error Unit
  | [] => .ok ()
  | (_, value) :: rest => do
    checkWithin depth value
    checkFields depth rest

end

def checkText (value : Value) : Except Error Unit := value.checkWithin 0

end Value

end DataGrid
