import DataGrid.Answer
import DataGrid.Filter.Compile
import DataGrid.Paging
import DataGrid.Refresh

/-!
The passes of a refresh, and the whole of it: count the rows, search, filter, count again, order, set
the window and fetch. A pass that fails leaves what it did to the query; that it took part in the
filtering is known only once it is through.
-/

namespace DataGrid

open Sql

namespace Refresh

def onQuery {α : Type} (step : Action Query α) : Action Refresh α :=
  Action.on Refresh.query (fun query refresh => { refresh with query := query }) step

def onDatabase {α : Type} (step : Action (Option Database) α) : Action Refresh α :=
  Action.on Refresh.database (fun database refresh => { refresh with database := database }) step

def note (pass : String) : Action Refresh Unit := do
  let refresh ← get
  if refresh.config.debug.truthy && refresh.debugging then
    let text ← liftM (refresh.query.select >>= Select.placeholderSql refresh.query.dialect)
    modify fun refresh => { refresh with log := refresh.log ++ [⟨.debug, pass ++ ": " ++ text⟩] }

def runSearch (pass : Search → Action Searching Unit) : Action Refresh Unit := do
  let search := (← get).search
  let applied ← Action.on (fun refresh : Refresh => ({ query := refresh.query } : Searching))
    (fun searching refresh => { refresh with query := searching.query })
    (do
      pass search
      return (← get).applied)
  modify fun refresh => { refresh with applied := refresh.applied || applied }

def globalSearch : Action Refresh Unit := do
  runSearch Search.runGlobal
  note "filtering"

def columnSearch : Action Refresh Unit := do
  runSearch Search.runOwn
  note "column_search"

def readTree (value : Value) : Action Refresh (Option FilterTree) := do
  let (tree, log) := FilterTree.ofValue value
  modify fun refresh => { refresh with log := refresh.log ++ log }
  liftM tree

def treeFilter : Action Refresh Unit := do
  match ← readTree (← liftM (← get).request.filters) with
  | none => return
  | some tree =>
    let query := (← get).query
    Action.on (fun refresh : Refresh => (⟨refresh.query.store, refresh.log⟩ : Scope))
      (fun scope refresh => { refresh with query := { refresh.query with store := scope.store }, log := scope.log })
      (tree.compile query.adapter query.root)
    modify fun refresh => { refresh with applied := true }
    note "multi_column_filter"

def scriptFilter : Action Refresh Unit := do
  match (← get).filterScript with
  | none => return
  | some script =>
    onQuery (QueryStep.runAll script)
    modify fun refresh => { refresh with applied := true }

def count : Action Refresh Int := do
  let statement ← liftM (← get).query.countSelect
  let answer ← onDatabase (Database.scalar statement)
  if answer.truthy then liftM answer.toInteger else return 0

def totalCount : Action Refresh Int := do
  match (← get).total with
  | some total => return total
  | none =>
    let total ← count
    modify fun refresh => { refresh with total := some total }
    return total

def filterRows : Action Refresh Unit := do
  let refresh ← get
  if refresh.searchesAll then
    if ← liftM refresh.request.isSearchable then globalSearch
  scriptFilter
  columnSearch
  treeFilter
  let filtered ← if (← get).applied then count else totalCount
  modify fun refresh => { refresh with filtered := some filtered }

def orderRows : Action Refresh Unit := do
  onQuery (← get).rowOrder.run
  note "ordering"

/-- Sets the window of the requested page; it is set once. -/
def setWindow : Action Refresh Unit := do
  let refresh ← get
  if refresh.paged then throw .pagingApplied
  let query ← liftM (Paging.apply refresh.request refresh.config refresh.query)
  set { refresh with query := query, paged := true }

def page : Action Refresh Unit := do
  setWindow
  note "paging"

def pageIfAsked : Action Refresh Unit := do
  if ← liftM (← get).request.isPaged then page

def rows : Action Refresh (List Row) := do
  let refresh ← get
  let rows ← onDatabase (Database.rows (← liftM refresh.query.select))
  liftM (rows.mapM (AddedColumn.addAll refresh.added))

/-- The number that tells the request from the next one, zero when it is no number. -/
def draw (request : Request) : Except Error Int := do
  let value ← request.parameter "draw"
  if !value.truthy then return 0
  match value.toInteger with
  | .ok n => return n
  | .error (.tooLarge reason) => throw (.tooLarge reason)
  | .error _ => return 0

def run : Action Refresh Answer := do
  let request := (← get).request
  liftM request.check
  let total ← totalCount
  if total ≠ 0 then
    filterRows
    orderRows
    pageIfAsked
  else modify fun refresh => { refresh with filtered := some 0 }
  let draw ← liftM (draw request)
  let filtered := (← get).filtered
  return { draw := draw, total := total, filtered := filtered, rows := ← rows }

end Refresh

end DataGrid
