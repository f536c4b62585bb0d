import DataGrid.Sql.Adapter

/-!
Relations between tables and the registry that knows them by table and name. A relation carries the
qualified keys that link a row to its related rows, by a join or by a subquery.
-/

namespace DataGrid

open Sql

inductive Relation where
  | belongsTo (table foreignKey ownerKey : String)
  | hasMany (table foreignKey localKey : String)
  | belongsToMany (table pivot parentKey pivotParentKey pivotRelatedKey relatedKey : String)
  /-- The related rows hold a key of the main row and say of which kind it is. -/
  | polymorphic (table foreignKey otherKey : String) (morphType : Option String) (morphClass : Value)
  deriving Inhabited, Repr

namespace Relation

def table : Relation → String
  | belongsTo table .. | hasMany table .. | belongsToMany table .. | polymorphic table .. => table

def isPolymorphic : Relation → Bool
  | polymorphic .. => true
  | _ => false

def morphCondition? (adapter : Adapter) : Relation → Option Atom
  | polymorphic _ _ _ (some column) morphClass =>
    match column, morphClass with
    | "", _ | _, .null => none
    | _, _ => (compare (adapter.column column) .equal morphClass).toOption
  | _ => none

def correlation (adapter : Adapter) (relation : Relation) : Cond :=
  let same (first second : String) : Cond := .atom (.sameColumn (adapter.column first) (adapter.column second))
  match relation with
  | belongsTo _ foreignKey ownerKey => same ownerKey foreignKey
  | hasMany _ foreignKey localKey => same foreignKey localKey
  | belongsToMany _ _ parentKey pivotParentKey _ _ => same pivotParentKey parentKey
  | polymorphic _ foreignKey otherKey _ _ =>
    match relation.morphCondition? adapter with
    | some morph => Cond.join .and [same foreignKey otherKey, .atom morph]
    | none => same foreignKey otherKey

def rows (adapter : Adapter) : Relation → Rows
  | belongsToMany table pivot _ _ pivotRelatedKey relatedKey =>
    .joined table pivot (adapter.column pivotRelatedKey) (adapter.column relatedKey)
  | relation => .table relation.table

/-- Whether there is a related row, through one relation after another, with the given condition on the
last one. -/
def existsThrough (adapter : Adapter) (inner : Option Cond) : Relation → List Relation → Cond
  | relation, [] =>
    .exists (relation.rows adapter)
      (Cond.join .and (relation.correlation adapter :: (inner.map Cond.group).toList))
  | relation, next :: rest =>
    .exists (relation.rows adapter)
      (Cond.join .and [relation.correlation adapter, existsThrough adapter inner next rest])

end Relation

structure Registry where
  tables : List (String × List (String × Relation)) := []
  deriving Inhabited, Repr

namespace Registry

/-- The pairs with one set: in its place when its key is there, at the end otherwise. -/
def put {α : Type} (key : String) (value : α) : List (String × α) → List (String × α)
  | [] => [(key, value)]
  | (name, old) :: rest => if name = key then (name, value) :: rest else (name, old) :: put key value rest

def ofTable (registry : Registry) (table : String) : List (String × Relation) :=
  (registry.tables.lookup table).getD []

def register (registry : Registry) (table name : String) (relation : Relation) : Registry :=
  ⟨put table (put name relation (registry.ofTable table)) registry.tables⟩

/-- The relation of a table; a statement without a main table has none. -/
def find (registry : Registry) (table : Option String) (name : String) : Except Error Relation :=
  match table.bind fun table => (registry.ofTable table).lookup name with
  | some relation => .ok relation
  | none => .error (.undefinedRelation name (table.getD "None"))

def walkFrom (registry : Registry) : (table : Option String) → List String → Except Error (List Relation)
  | _, [] => .ok []
  | table, name :: rest => do
    let relation ← registry.find table name
    return relation :: (← registry.walkFrom (some relation.table) rest)

def walk (registry : Registry) (table : Option String) (path : String) : Except Error (List Relation) :=
  registry.walkFrom table (Text.splitString '.' path)

end Registry

end DataGrid
