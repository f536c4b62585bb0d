import DataGrid.Log
import DataGrid.Refresh.AddedColumn
import DataGrid.RowOrder
import DataGrid.Search

/-!
One refresh of a grid: a request, the settings, and the query that is built for it. Before the passes are
run, the caller says which columns are kept out of search and order, which are searched or ordered in a
way of their own, and which columns are added to the rows.
-/

namespace DataGrid

structure Refresh where
  request : Request
  config : Config
  query : Query
  registry : Registry
  paths : PathSet
  searches : List (String × Override GroupStep) := []
  orders : List (String × Override QueryStep) := []
  blacklist : List String := ["password", "remember_token"]
  whitelist : Option (List String) := none
  added : List AddedColumn := []
  /-- Whether the global search is made, which a filter of the caller may replace. -/
  searchesAll : Bool := true
  filterScript : Option (List QueryStep) := none
  orderScript : Option (List QueryStep) := none
  applied : Bool := false
  total : Option Int := none
  filtered : Option Int := none
  paged : Bool := false
  database : Option Database := none
  debugging : Bool := false
  log : Log := []

namespace Value

def textsOf (values : List Value) : List String :=
  values.filterMap fun
    | .text s => some s
    | _ => none

end Value

namespace Refresh

def ofQuery (request : Request) (config : Config) (query : Query) (registry : Registry) (declared : List String)
    (database : Option Database) (debugging : Bool) : Refresh where
  request := request
  config := config
  query := query
  registry := registry
  paths := PathSet.expand declared
  database := database
  debugging := debugging

def excludes (refresh : Refresh) (column : String) : Bool :=
  refresh.blacklist.contains column ||
    match refresh.whitelist with
    | none => false
    | some names => !names.contains column

/-- Runs a script on the query after the search, in place of the global search unless that is kept. -/
def filter (refresh : Refresh) (script : List QueryStep) (keepSearch : Bool) : Refresh :=
  { refresh with searchesAll := keepSearch, filterScript := some script }

def overrideSearch (refresh : Refresh) (column : String) (override : Override GroupStep) : Refresh :=
  { refresh with searches := Registry.put column override refresh.searches }

def overrideOrder (refresh : Refresh) (column : String) (override : Override QueryStep) : Refresh :=
  { refresh with orders := Registry.put column override refresh.orders }

def orderColumn (refresh : Refresh) (column : String) (sql bindings : Value) : Except Error Refresh :=
  return refresh.overrideOrder column (.named ⟨.orderByRaw, [sql, .list (← bindings.members)]⟩)

def order (refresh : Refresh) (script : List QueryStep) : Refresh := { refresh with orderScript := some script }

/-- Keeps columns out of automatic search and order. Names that come before one that cannot be in a set
are kept out even so. -/
def exclude (names : Value) : Action Refresh Unit := do
  let members ← liftM names.members
  let accepted := Value.textsOf (members.takeWhile Value.hashable)
  modify fun refresh => { refresh with blacklist := refresh.blacklist ++ accepted }
  if !members.all Value.hashable then throw .wrongType

/-- Searches and orders only some columns; an asterisk lifts that. -/
def allowOnly (refresh : Refresh) (names : Value) : Except Error Refresh :=
  if names.isText "*" then .ok { refresh with whitelist := none }
  else do
    let members ← names.members
    if !members.all Value.hashable then throw .wrongType
    return { refresh with whitelist := some (Value.textsOf members) }

/-- Adds a column to the rows; it is neither searched nor ordered. -/
def addColumn (refresh : Refresh) (column : AddedColumn) : Refresh :=
  { refresh with blacklist := refresh.blacklist ++ [column.name], added := refresh.added ++ [column] }

def orderNullsLast (refresh : Refresh) : Refresh :=
  { refresh with config := { refresh.config with nullsLast := .bool true } }

def declare (refresh : Refresh) (paths : List String) : Refresh :=
  { refresh with paths := refresh.paths.extend paths }

def search (refresh : Refresh) : Search where
  request := refresh.request
  config := refresh.config
  registry := refresh.registry
  paths := refresh.paths
  overrides := refresh.searches
  excludes := refresh.excludes

def rowOrder (refresh : Refresh) : RowOrder where
  request := refresh.request
  config := refresh.config
  registry := refresh.registry
  paths := refresh.paths
  overrides := refresh.orders
  excludes := refresh.excludes
  script := refresh.orderScript

end Refresh

end DataGrid
