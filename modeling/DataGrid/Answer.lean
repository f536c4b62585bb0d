import DataGrid.Json.Writer
import DataGrid.Query.Database

/-!
The answer to a request: how many rows there are before and after filtering, and the rows of the page.
-/

namespace DataGrid

structure Answer where
  /-- The number that tells a request from the next one, sent back as it came. -/
  draw : Int
  total : Int
  filtered : Option Int
  rows : List Row

namespace Answer

def record (draw total filtered : Value) (rows : List Row) : Value :=
  .object [("draw", draw), ("recordsTotal", total), ("recordsFiltered", filtered),
    ("data", .list (rows.map .object))]

def toValue (answer : Answer) : Value :=
  record (.int answer.draw) (.int answer.total) (answer.filtered.elim .null .int) answer.rows

def toJson (answer : Answer) : Except Error String := Json.write answer.toValue

end Answer

end DataGrid
