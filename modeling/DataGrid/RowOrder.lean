import DataGrid.Config
import DataGrid.Override
import DataGrid.Query.Column
import DataGrid.Relation.Path
import DataGrid.Request

/-!
The order of the rows. A script of the caller replaces it altogether; otherwise the requested column is
ordered by its override when it has one, and along its path when that is declared. At most one term is
added to what the base orders by.
-/

namespace DataGrid

open Sql

structure RowOrder where
  request : Request
  config : Config
  registry : Registry
  paths : PathSet
  overrides : List (String × Override QueryStep)
  excludes : String → Bool
  script : Option (List QueryStep)

namespace RowOrder

def jsonSql (adapter : Adapter) (column : String) (term : OrderTerm) : Except Error String := do
  let direction := directionWord term.descending
  let path ← adapter.jsonPathOf column term.jsonPath
  match term.fallback with
  | .null => return path ++ " " ++ direction
  | fallback =>
    let other := adapter.quoteIdentifier (← fallback.toColumnName)
    return path ++ " " ++ direction ++ ", " ++ other ++ " " ++ direction

def termSql (config : Config) (adapter : Adapter) (column : String) (term : OrderTerm) : Except Error String :=
  let direction := directionWord term.descending
  match term.jsonPath with
  | .null =>
    let quoted := adapter.quoteIdentifier column
    if config.nullsLast.truthy then Adapter.nullsLast quoted direction config.nullsLastSql
    else .ok (quoted ++ " " ++ direction)
  | _ => jsonSql adapter column term

def addTerm (config : Config) (column : String) (term : OrderTerm) : Action Query Unit := do
  let query ← get
  set (query.orderBy (.text (← liftM (termSql config query.adapter column term))))

/-- Orders by a column along its path, unless rows cannot be ordered along it. -/
def addPathTerm (order : RowOrder) (path column : String) (term : OrderTerm) : Action Query Unit := do
  let query ← get
  if ← liftM (query.isOrderablePath order.registry path) then
    let (name, joined) ← liftM (query.joinPath order.registry path column)
    set joined
    addTerm order.config name term

def addRequested (order : RowOrder) (term : OrderTerm) : Action Query Unit := do
  match order.overrides.lookup term.column with
  | some (.callback script) => QueryStep.runAll (script (directionWord term.descending))
  | some (.named override) =>
    set (← liftM (override.applyToQuery term.column (directionWord term.descending) (← get)))
  | none =>
    if !order.excludes term.column then
      match order.paths.split? term.column with
      | some (path, column) => order.addPathTerm path column term
      | none => addTerm order.config term.column term

def run (order : RowOrder) : Action Query Unit := do
  match order.script with
  | some script => QueryStep.runAll script
  | none =>
    match ← liftM order.request.orderTerm? with
    | some term => order.addRequested term
    | none => return

end RowOrder

end DataGrid
