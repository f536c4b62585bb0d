import DataGrid.Query.Method

/-!
Columns as the automatic passes name them: qualified with a table so that no join makes them ambiguous,
and paths into JSON columns, which a request may spell with a value of any kind.
-/

namespace DataGrid

open Sql

namespace Query

/-- A column with the given table, or else the main one, in front; a column with a point has its own. -/
def qualified (query : Query) (column : String) (table : Option String) : String :=
  if column.toList.contains '.' then column
  else
    match (table.filter (· != "")).or query.mainTable? with
    | some name => if name = "" then column else name ++ "." ++ column
    | none => column

end Query

namespace Sql.Adapter

def jsonPathOf (adapter : Adapter) (column : String) (path : Value) : Except Error String :=
  match path, adapter.family with
  | .text steps, _ => adapter.jsonPath column steps
  | _, .mysql | .bytes _, .postgresql => .error .wrongType
  | _, .postgresql => .error .noSuchMember
  | _, _ => adapter.jsonPath column ""

def jsonField (adapter : Adapter) (column : String) (path : Value) : Except Error Expr :=
  return .literal (← adapter.jsonPathOf column path)

end Sql.Adapter

end DataGrid
