import DataGrid.Value.Display
import DataGrid.Text.Blank
import DataGrid.Text.Lower
import DataGrid.Error

/-!
One column of a grid as a request describes it. A column has a name or at least a key into the rows,
and either stands in for the other; every other part has a default.
-/

namespace DataGrid

namespace Value

def trueWords : List String := ["true", "1", "yes", "on"]

/-- A flag as a request spells it: by a word, or by any value that counts as present. -/
def flag : Value → Bool
  | .text s => trueWords.contains (String.ofList (Text.lower (Text.trim s.toList)))
  | value => value.truthy

def presence (value : Value) : Value := if value.truthy then value else .null

def displayOrEmpty : Value → String
  | .null => ""
  | value => value.display

def missing : Value → Bool
  | .null => true
  | .text s => s == ""
  | _ => false

end Value

structure Column where
  name : String
  dataKey : String
  searchable : Bool
  orderable : Bool
  jsonPath : Value
  fallback : Value
  searchValue : String
  isRegex : Bool
  deriving Inhabited, Repr

namespace Column

/-- The search settings of a column; anything but a record counts as none. -/
def searchFields (fields : List (String × Value)) : List (String × Value) :=
  match Value.fieldOrNull fields "search" with
  | .object search => search
  | _ => []

/-- The key of a column as it was sent, empty when there is none. -/
def sentKey (fields : List (String × Value)) : Value :=
  let key := Value.fieldOrNull fields "data"
  if key.truthy then key else .text ""

def sentName (fields : List (String × Value)) : Value :=
  let name := Value.fieldOrNull fields "name"
  if name.truthy then name else sentKey fields

/-- The search word of a column as it was sent. -/
def sentWord (fields : List (String × Value)) : Value := Value.fieldOrNull (searchFields fields) "value"

def ofValue (value : Value) : Except Error Column :=
  match value with
  | .object fields => do
    let part (key : String) (default : Value) : Value := (Value.field? fields key).getD default
    let name := sentName fields
    if !name.truthy then
      value.checkText
      throw (.unnamedColumn value.shown)
    let key := if (sentKey fields).truthy then sentKey fields else name
    name.checkText
    key.checkText
    (sentWord fields).checkText
    return {
      name := name.display
      dataKey := key.display
      searchable := (part "searchable" (.bool false)).flag
      orderable := (part "orderable" (.bool true)).flag
      jsonPath := (part "json" .null).presence
      fallback := (part "fallback" .null).presence
      searchValue := (sentWord fields).displayOrEmpty
      isRegex := ((Value.field? (searchFields fields) "regex").getD (.bool false)).flag }
  | _ => do
    value.checkText
    throw (.invalidColumn value.shown)

end Column

end DataGrid
