import DataGrid.Query.Database
import DataGrid.Template.Fields

/-!
Columns that are added to every row of a result: a template filled from the row, or what the caller computes
from it, such as some of its values joined. An added column takes the place of one of its name, or the position
that it asks for.
-/

namespace DataGrid

inductive Content where
  | template (source : String)
  | computed (compute : Row → Except Error Value)

structure AddedColumn where
  name : String
  content : Content
  /-- The position in the row, null for the place of its name or else the end. -/
  position : Value

namespace Content

/-- The values under some keys of a row, joined as texts. -/
def joined (keys : List String) (separator : String) : Content :=
  .computed fun row => do
    let values ← keys.mapM fun key => (Value.object row).itemNamed key
    return .text (separator.intercalate (values.map Value.display))

def valueFor (row : Row) : Content → Except Error Value
  | .template source => return .text (← Template.fillRow source row)
  | .computed compute => compute row

end Content

namespace AddedColumn

/-- The number of items before an item that is inserted at a position; a negative position counts from
the end, and a position beyond either end is that end. -/
def itemsBefore (size : Nat) (position : Int) : Nat :=
  if position < 0 then (position + size).toNat else min position.toNat size

def positionOf : Value → Except Error Int
  | .int n =>
    if -0x8000000000000000 ≤ n ∧ n < 0x8000000000000000 then .ok n
    else .error (.tooLarge "Python int too large to convert to C ssize_t")
  | .bool flag => .ok (if flag then 1 else 0)
  | _ => .error .wrongType

def addTo (column : AddedColumn) (row : Row) : Except Error Row := do
  let content ← column.content.valueFor row
  match column.position with
  | .null => return Value.setField row column.name content
  | position =>
    let others := row.filter (·.1 != column.name)
    let before := itemsBefore others.length (← positionOf position)
    return others.take before ++ (column.name, content) :: others.drop before

def addAll (columns : List AddedColumn) (row : Row) : Except Error Row :=
  columns.foldlM (fun row column => column.addTo row) row

end AddedColumn

end DataGrid
