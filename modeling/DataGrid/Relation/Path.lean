import DataGrid.Relation
import DataGrid.Query

/-!
Dotted columns that reach over relations. Only paths that were declared are followed; a declared path
brings its parents with it. A column is reached by joining every table on its path, or looked for in
nested subqueries along it.
-/

namespace DataGrid

open Sql

abbrev PathSet := List String

namespace PathSet

def withParents (path : String) : List String :=
  let names := Text.splitString '.' path
  (List.range names.length).map fun n => ".".intercalate (names.take (n + 1))

def insert (paths : PathSet) (path : String) : PathSet := if paths.contains path then paths else paths ++ [path]

def expand (declared : List String) : PathSet := (declared.flatMap withParents).foldl insert []

def extend (paths : PathSet) (declared : List String) : PathSet := (expand declared).foldl insert paths

/-- Splits a column into its relation path and its name, when the path is declared. -/
def split? (paths : PathSet) (column : String) : Option (String × String) :=
  (Text.splitLast? '.' column).filter fun (path, _) => paths.contains path

end PathSet

namespace Query

/-- Joins the table of a relation, and the pivot table before it. A pivot table brings the column of
its related table into the select list. -/
def joinRelation (query : Query) (column : String) (relation : Relation) : Query :=
  let on := joinCondition query.adapter
  match relation with
  | .belongsTo table foreignKey ownerKey => (query.leftJoin ⟨table, none⟩ (on foreignKey ownerKey none)).2
  | .hasMany table foreignKey localKey => (query.leftJoin ⟨table, none⟩ (on foreignKey localKey none)).2
  | .belongsToMany table pivot parentKey pivotParentKey pivotRelatedKey relatedKey =>
    let query := (query.leftJoin ⟨pivot, none⟩ (on pivotParentKey parentKey none)).2
    let query := query.addColumn (table ++ "." ++ column)
    (query.leftJoin ⟨table, none⟩ (on pivotRelatedKey relatedKey none)).2
  | .polymorphic table foreignKey otherKey _ _ =>
    (query.leftJoin ⟨table, none⟩ (on foreignKey otherKey (relation.morphCondition? query.adapter))).2

/-- Joins every table along a path; the answer is the column of the last one, qualified. -/
def joinPath (query : Query) (registry : Registry) (path column : String) : Except Error (String × Query) := do
  let relations ← registry.walk query.mainTable? path
  let last := (relations.getLast?.map Relation.table).getD ""
  return (last ++ "." ++ column, relations.foldl (fun query relation => query.joinRelation column relation) query)

/-- Whether rows can be ordered along a path: some relation of it is not polymorphic. -/
def isOrderablePath (query : Query) (registry : Registry) (path : String) : Except Error Bool :=
  return (← registry.walk query.mainTable? path).any fun relation => !relation.isPolymorphic

/-- Whether there are related rows along a path with a condition, which is given the last table. -/
def existsAlong (query : Query) (registry : Registry) (path : String)
    (inner : String → Except Error (Option Cond)) : Except Error Cond := do
  match ← registry.walk query.mainTable? path with
  | [] => throw (.outOfRange "list index out of range")
  | first :: rest =>
    let last := (first :: rest).getLast (List.cons_ne_nil _ _)
    return first.existsThrough query.adapter (← inner last.table) rest

end Query

end DataGrid
