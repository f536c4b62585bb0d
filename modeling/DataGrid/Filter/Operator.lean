import DataGrid.Sql.Adapter
import DataGrid.Value.Display

/-!
The operators of a filter and the predicate that each stands for. The four that look for a part of a
text match the plain text of the value against a pattern.
-/

namespace DataGrid

open Sql

inductive FilterOperator where
  | equal | unequal | greater | atLeast | less | atMost
  | startsWith | contains | lacks | endsWith
  | isNull | isNotNull | isEmpty | isNotEmpty
  deriving DecidableEq, Repr

namespace FilterOperator

def all : List FilterOperator :=
  [equal, unequal, greater, atLeast, less, atMost, startsWith, contains, lacks, endsWith, isNull, isNotNull,
    isEmpty, isNotEmpty]

def word : FilterOperator → String
  | equal => "eq"
  | unequal => "neq"
  | greater => "gt"
  | atLeast => "gte"
  | less => "lt"
  | atMost => "lte"
  | startsWith => "startswith"
  | contains => "contains"
  | lacks => "doesnotcontain"
  | endsWith => "endswith"
  | isNull => "isnull"
  | isNotNull => "isnotnull"
  | isEmpty => "isempty"
  | isNotEmpty => "isnotempty"

def ofWord? (given : String) : Option FilterOperator := all.find? fun operator => operator.word == given

theorem mem_all (operator : FilterOperator) : operator ∈ all := by cases operator <;> decide

theorem ofWord?_word (operator : FilterOperator) : ofWord? operator.word = some operator := by
  cases operator <;> decide +kernel

def predicate (operator : FilterOperator) (left : Expr) (value : Value) : Except Error Atom :=
  match operator with
  | equal => compare left .equal value
  | unequal => compare left .unequal value
  | greater => compare left .greater value
  | atLeast => compare left .atLeast value
  | less => compare left .less value
  | atMost => compare left .atMost value
  | startsWith => compare left .like (.text (value.display ++ "%"))
  | contains => compare left .like (.text ("%" ++ value.display ++ "%"))
  | lacks => compare left .notLike (.text ("%" ++ value.display ++ "%"))
  | endsWith => compare left .like (.text ("%" ++ value.display))
  | isNull => .ok (.isNull left false)
  | isNotNull => .ok (.isNull left true)
  | isEmpty => compare left .equal (.text "")
  | isNotEmpty => compare left .unequal (.text "")

end FilterOperator

end DataGrid
