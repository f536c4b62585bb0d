import DataGrid.Sql.Condition
import DataGrid.Sql.Naming

/-!
Statements: what is selected from which tables, under which condition, in which order, and which
window of the rows.
-/

namespace DataGrid.Sql

inductive Item where
  | column (table name : String)
  | text (sql : String)
  | part (table sql : String)
  | lowered (inner : Expr)
  | truth (flag : Bool)
  | null
  | rowMark
  | rowCount
  deriving DecidableEq, Repr

structure TableName where
  table : String
  alias? : Option String := none
  deriving DecidableEq, Repr

def TableName.shown (name : TableName) : String := name.alias?.getD name.table

structure Join where
  outer : Bool
  target : TableName
  on : Cond
  deriving Repr

/-- A term of an `ORDER BY` clause. -/
inductive SortTerm where
  | text (sql : String)
  | value (content : Value)
  | fragment (content : Fragment)
  | column (expression : Expr)
  | directed (expression : Expr) (ascending : Bool)
  deriving Repr

mutual

inductive Source where
  | table (name : TableName)
  | text (sql : String)
  /-- The union of statements under a name; one statement stands for itself. -/
  | derived (name : String) (members : List Select)

structure Select where
  distinct : Bool
  items : List Item
  source : Option Source
  joins : List Join
  filter : Option Cond
  groups : List Expr
  havingOver : Option Int
  sorts : List SortTerm
  offset : Option Int
  limit : Option Int

end

def Select.empty : Select where
  distinct := false
  items := []
  source := none
  joins := []
  filter := none
  groups := []
  havingOver := none
  sorts := []
  offset := none
  limit := none

instance : Inhabited Select := ⟨Select.empty⟩

def Source.name? : Source → Option String
  | .table name => some name.shown
  | .text _ => none
  | .derived name _ => some name

/-- What the entries of a statement are called from outside, where the statement has a name. The second
column of a name has a number, as inside. -/
def shownItems (outer : String) : (before : List String) → List Item → List Item
  | _, [] => []
  | before, .column _ name :: rest =>
    let base := columnBase name
    let shown := if before.contains name then base ++ "_" ++ intText (before.count base) else name
    .column outer shown :: shownItems outer (name :: before) rest
  | before, .text sql :: rest => .part outer sql :: shownItems outer before rest
  | before, _ :: rest => shownItems outer before rest

/-- All columns of a union: those of its first statement, no more than every statement has. -/
def Select.union (name : String) (members : List Select) : Select :=
  let count := (members.map fun member => member.items.length).min?.getD 0
  let items := ((members.headD Select.empty).items).take count
  { Select.empty with items := shownItems name [] items, source := some (.derived name members) }

def Select.counting (inner : Select) : Select :=
  { Select.empty with items := [.rowCount], source := some (.derived "count_row_table" [inner]) }

end DataGrid.Sql
