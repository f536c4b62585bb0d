import DataGrid.Relation

/-!
Relations as records: the kind of the relation and its keys by name.
-/

namespace DataGrid

namespace Value

def textField (fields : List (String × Value)) (name : String) : String :=
  match field? fields name with
  | some (.text s) => s
  | _ => ""

def asText? : Value → Option String
  | .text s => some s
  | _ => none

end Value

namespace Relation

/-- Reads a relation; a record of no known kind is taken for a polymorphic one. -/
def ofFields (fields : List (String × Value)) : Relation :=
  let part := Value.textField fields
  match part "kind" with
  | "belongs_to" => .belongsTo (part "table") (part "foreign_key") (part "owner_key")
  | "has_one_or_many" => .hasMany (part "table") (part "foreign_key") (part "local_key")
  | "belongs_to_many" =>
    .belongsToMany (part "table") (part "pivot") (part "parent_key") (part "pivot_parent_key")
      (part "pivot_related_key") (part "related_key")
  | _ =>
    .polymorphic (part "table") (part "foreign_key") (part "other_key")
      ((Value.field? fields "morph_type").bind Value.asText?) (Value.fieldOrNull fields "morph_class")

def toFields : Relation → List (String × Value)
  | .belongsTo table foreignKey ownerKey =>
    [("kind", .text "belongs_to"), ("table", .text table), ("foreign_key", .text foreignKey),
      ("owner_key", .text ownerKey)]
  | .hasMany table foreignKey localKey =>
    [("kind", .text "has_one_or_many"), ("table", .text table), ("foreign_key", .text foreignKey),
      ("local_key", .text localKey)]
  | .belongsToMany table pivot parentKey pivotParentKey pivotRelatedKey relatedKey =>
    [("kind", .text "belongs_to_many"), ("table", .text table), ("pivot", .text pivot),
      ("parent_key", .text parentKey), ("pivot_parent_key", .text pivotParentKey),
      ("pivot_related_key", .text pivotRelatedKey), ("related_key", .text relatedKey)]
  | .polymorphic table foreignKey otherKey morphType morphClass =>
    [("kind", .text "polymorphic_many"), ("table", .text table), ("foreign_key", .text foreignKey),
      ("other_key", .text otherKey), ("morph_type", morphType.elim .null .text), ("morph_class", morphClass)]

/-- Reading what is written gives a relation with the keys of the first one back. -/
theorem ofFields_toFields (relation : Relation) : ofFields relation.toFields = relation := by
  cases relation with
  | polymorphic _ _ _ morphType _ => cases morphType <;> rfl
  | _ => rfl

end Relation

namespace Registry

def ofFields (tables : List (String × Value)) : Registry :=
  tables.foldl (fun registry (table, relations) =>
    match relations with
    | .object relations =>
      relations.foldl (fun registry (name, relation) =>
        match relation with
        | .object fields => registry.register table name (Relation.ofFields fields)
        | _ => registry) registry
    | _ => registry) {}

def toFields (registry : Registry) : List (String × Value) :=
  registry.tables.map fun (table, relations) =>
    (table, .object (relations.map fun (name, relation) => (name, .object relation.toFields)))

end Registry

end DataGrid
