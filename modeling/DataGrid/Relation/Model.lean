import DataGrid.Relation
import DataGrid.Value.Display

/-!
Relations read off mapped models. Foreign keys between two tables decide which of them holds the key;
there has to be exactly one that fits. A pivot table, an explicit pair of columns or the mark of a
polymorphic relation decide for themselves. Every table has a name of its own, and every model a key.
-/

namespace DataGrid

structure ModelColumn where
  name : String
  isKey : Bool
  references : Option (String × String)
  deriving Inhabited, Repr

structure ModelTable where
  name : String
  columns : List ModelColumn
  deriving Inhabited, Repr

structure Relationship where
  name : String
  target : String
  pivot : Option String
  /-- An explicit pair: the own column, and the target's column that refers to it. -/
  on : Option (String × String)
  foreignKey : Option (String × String)
  /-- The column of the pair that stands for the related rows; it is one of the own table. -/
  remoteSide : Option String
  info : List (String × Value)
  deriving Inhabited, Repr

structure Model where
  className : String
  table : ModelTable
  relationships : List Relationship
  deriving Inhabited, Repr

inductive Link where
  | manyToOne (foreign owner : String)
  | oneToMany (owner foreign : String)
  | manyToMany (parent pivotParent pivotRelated related : String)
  deriving DecidableEq, Repr

/-- A foreign key: the column that holds it, and the column that it refers to. -/
structure ForeignKey where
  holder : String × String
  owner : String × String
  deriving DecidableEq, Repr

def qualified (column : String × String) : String := column.1 ++ "." ++ column.2

namespace ModelTable

def hasColumn (table : ModelTable) (name : String) : Bool := table.columns.any (·.name == name)

def column (table : ModelTable) (name : String) : Except Error (String × String) :=
  if table.hasColumn name then .ok (table.name, name) else .error (.unknownKey (Value.shown (.text name)))

/-- The foreign keys of a table to another one, among the columns that are considered. -/
def keysTo (considered : String × String → Bool) (table other : ModelTable) : Except Error (List ForeignKey) := do
  let keys ← table.columns.mapM fun column =>
    match column.references with
    | some (name, key) => do
      if name ≠ other.name || !considered (table.name, column.name) then return none
      if !other.hasColumn key then throw .noReferencedColumn
      return some (⟨(table.name, column.name), (name, key)⟩ : ForeignKey)
    | none => return none
  return keys.filterMap fun key => key

def keysBetween (considered : String × String → Bool) (table other : ModelTable) : Except Error (List ForeignKey) := do
  let keys ← other.keysTo considered table
  if table.name = other.name then return keys
  else return keys ++ (← table.keysTo considered other)

def onlyKey (considered : String × String → Bool) (table other : ModelTable) : Except Error ForeignKey := do
  match ← table.keysBetween considered other with
  | [] => throw .noForeignKey
  | [key] => return key
  | _ => throw .ambiguousForeignKey

end ModelTable

namespace Model

def tableOf (models : List Model) (className : String) : Except Error ModelTable :=
  match models.find? fun model => model.className == className with
  | some model => .ok model.table
  | none => .error .ambiguousJoin

/-- The pair of columns that links a model to its target without a pivot table. -/
def pair (models : List Model) (own target : ModelTable) (relationship : Relationship) : Except Error ForeignKey :=
  match relationship.on, relationship.foreignKey with
  | some (column, foreign), _ => return ⟨← target.column foreign, ← own.column column⟩
  | none, some (className, column) => do
    let holder ← (← tableOf models className).column column
    own.onlyKey (· == holder) target
  | none, none => own.onlyKey (fun _ => true) target

/-- The column of a pair that stands for the related rows: the target's column, or the one that holds the key when both
are in one table, unless it is named. -/
def remoteOf (own target : ModelTable) (remoteSide : Option String) (key : ForeignKey) : Except Error (String × String) :=
  match remoteSide with
  | some name => own.column name
  | none => .ok (if own.name == target.name || key.holder.1 == target.name then key.holder else key.owner)

/-- The link that a pair of columns makes. -/
def linkOf (own target : ModelTable) (remoteSide : Option String) (key : ForeignKey) : Except Error Link := do
  let remote ← remoteOf own target remoteSide key
  if remote ≠ key.holder && remote ≠ key.owner then throw .badOperand
  let holdsKey := if own.name == target.name then remote != key.holder else key.holder.1 == own.name
  let near := if remote = key.holder then key.owner else key.holder
  return if holdsKey then .manyToOne (qualified near) (qualified remote)
    else .oneToMany (qualified near) (qualified remote)

/-- The link that a relationship makes between its model and the target. -/
def link (models : List Model) (pivots : List ModelTable) (model : Model) (relationship : Relationship) :
    Except Error (ModelTable × Link) := do
  let target ← tableOf models relationship.target
  let own := model.table
  match relationship.pivot with
  | some name =>
    let some pivot := (pivots ++ models.map (·.table)).find? fun table => table.name == name | throw .ambiguousJoin
    let related ← target.onlyKey (fun _ => true) pivot
    let parent ← own.onlyKey (fun _ => true) pivot
    return (target, .manyToMany (qualified parent.owner) (qualified parent.holder) (qualified related.holder)
      (qualified related.owner))
  | none => return (target, ← linkOf own target relationship.remoteSide (← pair models own target relationship))

/-- The relation of a relationship. One that is marked by the column of its kind is polymorphic. -/
def relation (models : List Model) (pivots : List ModelTable) (model : Model) (relationship : Relationship) :
    Except Error Relation := do
  let (target, link) ← model.link models pivots relationship
  match Value.field? relationship.info "morph_type" with
  | some morphType =>
    let (own, other) := match link with
      | .manyToOne foreign owner => (foreign, owner)
      | .oneToMany owner foreign => (owner, foreign)
      | .manyToMany parent pivotParent _ _ => (parent, pivotParent)
    let column := match morphType with
      | .text name => some name
      | _ => none
    return .polymorphic target.name other own column
      ((Value.field? relationship.info "morph_class").getD (.text model.className))
  | none =>
    match link with
    | .manyToOne foreign owner => return .belongsTo target.name foreign owner
    | .oneToMany owner foreign => return .hasMany target.name foreign owner
    | .manyToMany parent pivotParent pivotRelated related =>
      return .belongsToMany target.name (relationship.pivot.getD "") parent pivotParent pivotRelated related

def relations (models : List Model) (pivots : List ModelTable) (model : Model) :
    Except Error (List (String × Relation)) :=
  model.relationships.mapM fun relationship => return (relationship.name, ← model.relation models pivots relationship)

end Model

namespace Registry

def registerAll (registry : Registry) (table : String) (relations : List (String × Relation)) : Registry :=
  relations.foldl (fun registry (name, relation) => registry.register table name relation) registry

def checkTables (tables : List ModelTable) : Except Error Unit :=
  if !tables.all (fun table => (table.columns.map (·.name)).Nodup) then .error .duplicateColumn
  else if !(tables.map (·.name)).Nodup then .error .ambiguousJoin
  else .ok ()

/-- The relations of the models of some classes. All models have to be sound as soon as one is used. -/
def ofModels (models : List Model) (pivots : List ModelTable) (classes : List String) : Except Error Registry := do
  checkTables (pivots ++ models.map (·.table))
  if !models.all (fun model => model.table.columns.any (·.isKey)) then throw .badOperand
  let chosen ← classes.mapM fun className =>
    match models.find? fun model => model.className == className with
    | some model => .ok model
    | none => .error (.unknownKey (Value.shown (.text className)))
  if chosen.isEmpty then return {}
  for model in models do discard (model.relations models pivots)
  chosen.foldlM (fun registry model => return registry.registerAll model.table.name (← model.relations models pivots)) {}

end Registry

end DataGrid
