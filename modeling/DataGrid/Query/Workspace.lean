import DataGrid.Query.Method

/-!
Queries that are built side by side. Their groups live in one store, and the lists of each stand in places
that its handle refers to, so that whoever refers to a place sees what is added there. A clone starts with a
copy of the groups and with lists of its own.
-/

namespace DataGrid

open Sql

/-- The lists that grow while a query is built. -/
inductive QueryList where
  | joins | joined | items | sorts
  deriving DecidableEq, Repr

def QueryList.Item : QueryList → Type
  | joins => Join
  | joined => String
  | items => Option Sql.Item
  | sorts => SortTerm

def Query.list (query : Query) : (kind : QueryList) → List kind.Item
  | .joins => query.joins
  | .joined => query.joined
  | .items => query.items
  | .sorts => query.sorts

/-- A query by reference: its root group, the places of its lists, and a window of its own. -/
structure Handle where
  base : Select
  adapter : Adapter
  root : GroupId
  places : QueryList → Nat
  offset : Value
  limit : Value

structure Workspace where
  store : Store := {}
  lists : (kind : QueryList) → List (List kind.Item) := fun _ => []
  handles : List Handle := []

namespace Workspace

def list (workspace : Workspace) (handle : Handle) (kind : QueryList) : List kind.Item :=
  (workspace.lists kind).getD (handle.places kind) []

/-- The query that a handle refers to. -/
def read (workspace : Workspace) (handle : Handle) : Query where
  base := handle.base
  adapter := handle.adapter
  store := workspace.store
  root := handle.root
  joins := workspace.list handle .joins
  joined := workspace.list handle .joined
  items := workspace.list handle .items
  sorts := workspace.list handle .sorts
  offset := handle.offset
  limit := handle.limit

def query? (workspace : Workspace) (index : Nat) : Option Query := workspace.handles[index]?.map workspace.read

/-- Puts what became of a query where its handle refers to. -/
def write (workspace : Workspace) (index : Nat) (handle : Handle) (query : Query) : Workspace where
  store := query.store
  lists kind := (workspace.lists kind).set (handle.places kind) (query.list kind)
  handles := workspace.handles.set index { handle with offset := query.offset, limit := query.limit }

/-- Adds a handle on a query, with lists of its own. -/
def attach (workspace : Workspace) (query : Query) : Workspace where
  store := query.store
  lists kind := workspace.lists kind ++ [query.list kind]
  handles := workspace.handles ++ [{
    base := query.base
    adapter := query.adapter
    root := query.root
    places := fun kind => (workspace.lists kind).length
    offset := query.offset
    limit := query.limit }]

def addQuery (workspace : Workspace) (base : Select) (dialect : Dialect) (oracle : Bool) : Workspace :=
  let (root, store) := workspace.store.fresh
  workspace.attach { Query.ofSelect base dialect oracle with store := store, root := root }

/-- Runs a step on the query of a handle. -/
def step {α : Type} (workspace : Workspace) (index : Nat) (action : Action Query α) : Except Error α × Workspace :=
  match workspace.handles[index]? with
  | none => (.error .noSuchMember, workspace)
  | some handle =>
    let (result, query) := action (workspace.read handle)
    (result, workspace.write index handle query)

def clone (workspace : Workspace) (index : Nat) : Except Error Workspace :=
  match workspace.handles[index]? with
  | none => .error .noSuchMember
  | some handle => do
    let (root, store) ← workspace.store.copy handle.root
    return workspace.attach { workspace.read handle with store := store, root := root }

end Workspace

end DataGrid
