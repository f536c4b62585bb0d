import DataGrid.Moment
import DataGrid.Number.Decimal

/-!
The values that requests, configuration files and result rows carry. Numbers keep their kind: `1`,
`1.0`, `true` and the decimal `1` are four values, though they compare as equal.
-/

namespace DataGrid

inductive Value where
  | null
  | bool (flag : Bool)
  | int (number : Int)
  | float (number : Double)
  | text (content : String)
  | bytes (content : List UInt8)
  | decimal (number : Decimal)
  | moment (point : Moment)
  | uuid (canonical : String)
  | foreign
  | list (items : List Value)
  | object (fields : List (String × Value))
  | row (fields : List (String × Value))
  deriving Inhabited, Repr

namespace Value

def field? (fields : List (String × Value)) (key : String) : Option Value :=
  (fields.find? fun (name, _) => name == key).map (·.2)

def fieldOrNull (fields : List (String × Value)) (key : String) : Value := (field? fields key).getD .null

/-- Sets a field: in its place when the record has it, at the end otherwise. -/
def setField (fields : List (String × Value)) (key : String) (value : Value) : List (String × Value) :=
  if fields.any (·.1 == key) then fields.map fun (name, old) => if name == key then (name, value) else (name, old)
  else fields ++ [(key, value)]

def truthy : Value → Bool
  | .null => false
  | .bool flag => flag
  | .int n => n != 0
  | .float x => !x.isZero
  | .text s => s != ""
  | .bytes content => !content.isEmpty
  | .decimal d => !d.isZero
  | .moment _ | .uuid _ | .foreign => true
  | .list items => !items.isEmpty
  | .object fields | .row fields => !fields.isEmpty

def isText (value : Value) (content : String) : Bool :=
  match value with
  | .text s => s == content
  | _ => false

end Value

end DataGrid
