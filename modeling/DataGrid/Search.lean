import DataGrid.Override
import DataGrid.Query.Column
import DataGrid.Relation.Path
import DataGrid.Request
import DataGrid.Search.Pattern

/-!
The two searches of a request. The global one adds a group for each term, in which every searchable
column is an alternative; the other adds a condition for each column that has a keyword of its own. A
column is searched by its override when it has one, and along its path when that is declared.
-/

namespace DataGrid

open Sql

structure Search where
  request : Request
  config : Config
  registry : Registry
  paths : PathSet
  overrides : List (String × Override GroupStep)
  excludes : String → Bool

/-- A query during a search, and whether any column took part in it so far. -/
structure Searching where
  query : Query
  applied : Bool := false

namespace Searching

def onStore {α : Type} (step : Action Store α) : Action Searching α :=
  Action.on Searching.query (fun query searching => { searching with query := query }) (QueryStep.onStore step)

def tryStore (change : Store → Except Error Store) : Action Searching Unit := do
  let searching ← get
  let store ← liftM (change searching.query.store)
  set { searching with query := { searching.query with store := store } }

def freshGroup : Action Searching GroupId := onStore fun store =>
  let (id, grown) := store.fresh
  (.ok id, grown)

def addTo (id : GroupId) (junction : Junction) (entry : Entry) : Action Searching Unit :=
  tryStore fun store => .ok (store.add id junction entry)

def markApplied : Action Searching Unit := modify fun searching => { searching with applied := true }

end Searching

namespace Search

def like (config : Config) (adapter : Adapter) (expression : Expr) (pattern : String) : Atom :=
  let searched := adapter.castText expression
  .compare (if config.caseInsensitive.truthy then .lower searched else searched) .like (.text pattern)

def plainTest (config : Config) (query : Query) (name keyword : String) (table : Option String) : Atom :=
  like config query.adapter (query.adapter.column (query.qualified name table)) (config.pattern keyword)

/-- The condition on a JSON column: that its value matches, or else its fallback. -/
def jsonTest (config : Config) (query : Query) (column : Column) (name keyword : String) (table : Option String) :
    Except Error Cond := do
  let adapter := query.adapter
  let pattern := config.pattern keyword
  let field ← adapter.jsonField (query.qualified name table) column.jsonPath
  let test := Cond.atom (like config adapter field pattern)
  match column.fallback with
  | .null => return test
  | fallback =>
    let other := Cond.atom (like config adapter (adapter.column (← fallback.toColumnName)) pattern)
    return .group (Cond.join .or [test, other])

def columnTest (config : Config) (query : Query) (column : Column) (name keyword : String)
    (table : Option String) : Except Error Cond :=
  match column.jsonPath with
  | .null => .ok (.atom (plainTest config query name keyword table))
  | _ => jsonTest config query column name keyword table

/-- The condition that the column itself, or a related row along its path, matches a keyword. -/
def automaticTest (search : Search) (query : Query) (column : Column) (keyword : String) : Except Error Cond :=
  match search.paths.split? column.name with
  | some (path, name) =>
    query.existsAlong search.registry path fun table =>
      (columnTest search.config query column name keyword (some table)).map some
  | none => columnTest search.config query column column.name keyword none

/-- Runs a script on a group of its own and adds the group to another one. -/
def addScript (id : GroupId) (junction : Junction) (script : List GroupStep) : Action Searching Unit := do
  let scope ← Searching.freshGroup
  let searching ← get
  Searching.onStore (GroupStep.runAll searching.query.adapter scope script)
  Searching.addTo id junction (.group scope)

def addAlternative (search : Search) (id : GroupId) (keyword : String) (column : Column) : Action Searching Unit := do
  let query := (← get).query
  match search.overrides.lookup column.name with
  | some (.callback script) =>
    addScript id .or (script keyword)
    Searching.markApplied
  | some (.named override) =>
    if !override.searchExempt then
      Searching.tryStore (override.applyToGroup query.adapter id column.name keyword true)
      Searching.markApplied
  | none =>
    if !search.excludes column.name then
      Searching.addTo id .or (.cond (← liftM (search.automaticTest query column keyword)))
      Searching.markApplied

def searchAll (search : Search) (keyword : String) : Action Searching Unit := do
  let query := (← get).query
  let id ← Searching.onStore fun store =>
    let (id, grown) := store.nested query.root .and
    (.ok id, grown)
  let columns ← liftM search.request.columns
  (columns.filter (·.searchable)).forM (search.addAlternative id keyword)

def runGlobal (search : Search) : Action Searching Unit := do
  let keyword ← liftM search.request.keyword
  (search.config.terms keyword).forM search.searchAll

/-- The name under which a column is reached, and the query with the tables on its path joined. -/
def reach (search : Search) (query : Query) (column : Column) : Except Error (String × Query) :=
  match search.paths.split? column.name with
  | some (path, name) => query.joinPath search.registry path name
  | none => .ok (column.name, query)

def ownTest (search : Search) (query : Query) (column : Column) (name : String) : Except Error Cond :=
  if column.isRegex then
    let ignoreCase := search.config.caseInsensitive.truthy
    .ok (.atom (query.adapter.regexp (query.adapter.column name) column.searchValue ignoreCase))
  else columnTest search.config query column name column.searchValue none

def searchOwn (search : Search) (column : Column) : Action Searching Unit := do
  let query := (← get).query
  match search.overrides.lookup column.name with
  | some (.callback script) => addScript query.root .and (script column.searchValue)
  | some (.named override) =>
    Searching.tryStore (override.applyToGroup query.adapter query.root column.name column.searchValue false)
  | none =>
    let (name, joined) ← liftM (search.reach query column)
    modify fun searching => { searching with query := joined }
    let test ← liftM (search.ownTest joined column name)
    Searching.addTo query.root .and (.cond test)
  Searching.markApplied

def runOwn (search : Search) : Action Searching Unit := do
  let columns ← liftM search.request.columns
  (columns.filter fun column => column.searchable && column.searchValue != "").forM search.searchOwn

end Search

end DataGrid
