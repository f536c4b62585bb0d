import DataGrid.Predicate.Store
import DataGrid.Sql.Adapter
import DataGrid.Value.Item

/-!
Adding conditions to a group. Callers hand over values of any kind, so each method checks its arguments
in the order in which it uses them: operator, column, operand, and last the word that joins the
condition to those before it.
-/

namespace DataGrid

open Sql

/-- An argument of a method: a value, or an SQL expression in place of a column name. -/
inductive Argument where
  | value (content : Value)
  | expression (content : Expr)
  deriving Repr

namespace Value

def toColumnName : Value → Except Error String
  | .text name => .ok name
  | .bytes _ => .error .wrongType
  | _ => .error .noSuchMember

end Value

namespace Argument

def toValue : Argument → Value
  | .value content => content
  | .expression _ => .foreign

def checkCount (least most : Nat) (arguments : List Argument) : Except Error Unit :=
  if least ≤ arguments.length && arguments.length ≤ most then .ok () else .error .wrongType

end Argument

def Value.toJunction (value : Value) : Except Error Junction :=
  match value with
  | .text word =>
    match Junction.ofText? word with
    | some junction => .ok junction
    | none => .error (.unknownJunction word)
  | _ => .error (.unknownJunction value.display)

def Value.toComparison (value : Value) : Except Error Comparison :=
  match value with
  | .text operator =>
    match Comparison.ofText? operator with
    | some comparison => .ok comparison
    | none => .error (.unknownComparison operator)
  | .bytes _ => .error (.unknownComparison value.display)
  | _ => .error .noSuchMember

/-- A raw fragment from values: the bindings are gone through first, then the places counted. -/
def fragmentOf (sql bindings : Value) : Except Error Fragment := do
  let bindings ← bindings.members
  match sql with
  | .text s => Fragment.ofSql s bindings
  | .list _ | .row _ =>
    let places := ((← sql.members).filter (·.isText "?")).length
    if places ≠ bindings.length then .error (.bindingCount places bindings.length sql.display)
    else .error .wrongType
  | .bytes _ => .error .wrongType
  | _ => .error .noSuchMember

def rawOf (sql bindings : Value) : Except Error Entry := return .cond (.atom (.fragment (← fragmentOf sql bindings)))

namespace Sql.Adapter

/-- The expression that an argument names, none for a value that is no name. -/
def expression? (adapter : Adapter) : Argument → Option Expr
  | .expression content => some content
  | .value (.text name) => some (adapter.column name)
  | .value _ => none

def columnOf (adapter : Adapter) : Argument → Except Error Expr
  | .expression content => .ok content
  | .value content => return adapter.column (← content.toColumnName)

/-- The entry that a comparison makes; values are compared at once. -/
def comparisonOf (adapter : Adapter) (column : Argument) (operator value : Value) : Except Error Entry := do
  let operator ← operator.toComparison
  match adapter.expression? column with
  | some expression => return .cond (.atom (← compare expression operator value))
  | none => return .settled (← operator.holds column.toValue value)

def testOf (adapter : Adapter) (column : Argument) (test : Expr → Except Error Atom) : Except Error Entry :=
  match adapter.expression? column with
  | some expression => return .cond (.atom (← test expression))
  | none => .error .noSuchMember

def memberOf (adapter : Adapter) (column : Argument) (values : Value) (negated : Bool) : Except Error Entry :=
  adapter.testOf column fun expression => return .member expression (← values.members) negated

def nullOf (adapter : Adapter) (column : Argument) (negated : Bool) : Except Error Entry :=
  adapter.testOf column fun expression => .ok (.isNull expression negated)

end Sql.Adapter

inductive GroupMethod where
  | compare | orCompare | raw | orRaw | member | null | notNull
  deriving DecidableEq, Repr

namespace GroupMethod

def ofName? (name : String) : Option GroupMethod :=
  match name with
  | "where" => some .compare
  | "or_where" => some .orCompare
  | "where_raw" => some .raw
  | "or_where_raw" => some .orRaw
  | "where_in" => some .member
  | "where_null" => some .null
  | "where_not_null" => some .notNull
  | _ => none

/-- The entry that a method adds and the value that names its junction, from its arguments in
order; arguments that are left out have their defaults. -/
def entry (method : GroupMethod) (adapter : Adapter) (arguments : List Argument) :
    Except Error (Entry × Value) := do
  let values := arguments.map Argument.toValue
  let argument (index : Nat) (default : Value) : Value := values.getD index default
  let column := arguments.headD (.value .null)
  match method with
  | .compare =>
    Argument.checkCount 1 4 arguments
    return (← adapter.comparisonOf column (argument 1 (.text "=")) (argument 2 .null), argument 3 (.text "and"))
  | .orCompare =>
    Argument.checkCount 1 3 arguments
    return (← adapter.comparisonOf column (argument 1 (.text "=")) (argument 2 .null), .text "or")
  | .raw =>
    Argument.checkCount 1 3 arguments
    return (← rawOf (argument 0 .null) (argument 1 (.list [])), argument 2 (.text "and"))
  | .orRaw =>
    Argument.checkCount 1 2 arguments
    return (← rawOf (argument 0 .null) (argument 1 (.list [])), .text "or")
  | .member =>
    Argument.checkCount 2 4 arguments
    return (← adapter.memberOf column (argument 1 .null) (argument 3 (.bool false)).truthy,
      argument 2 (.text "and"))
  | .null =>
    Argument.checkCount 1 3 arguments
    return (← adapter.nullOf column (argument 2 (.bool false)).truthy, argument 1 (.text "and"))
  | .notNull =>
    Argument.checkCount 1 2 arguments
    return (← adapter.nullOf column true, argument 1 (.text "and"))

end GroupMethod

namespace Store

def addNamed (store : Store) (id : GroupId) (junction : Value) (entry : Entry) : Except Error Store :=
  return store.add id (← junction.toJunction) entry

def call (store : Store) (adapter : Adapter) (id : GroupId) (method : GroupMethod) (arguments : List Argument) :
    Except Error Store := do
  let (entry, junction) ← method.entry adapter arguments
  store.addNamed id junction entry

def nestedNamed (store : Store) (id : GroupId) (junction : Value) : Except Error (GroupId × Store) :=
  return store.nested id (← junction.toJunction)

end Store

end DataGrid
