import DataGrid.Filter.Operator
import DataGrid.Request.Column
import DataGrid.Log

/-!
Filter trees. A record with a logic and filters is a group, any other value a leaf; a group's logic has
to be one of the two junctions, while a leaf may hold anything.
-/

namespace DataGrid

open Sql

structure FilterLeaf where
  field : Value := .null
  operator : Value := .null
  value : Value := .null
  deriving Inhabited, Repr

inductive FilterNode where
  | leaf (leaf : FilterLeaf)
  | group (logic : Junction) (children : List FilterNode)
  deriving Repr

/-- The junction that a group's logic stands for, whatever its case and the blanks around it. -/
def Value.toLogic (value : Value) : Except Error Junction :=
  match Junction.ofText? (String.ofList (Text.lower (Text.trim value.display.toList))) with
  | some junction => .ok junction
  | none => .error (.unknownJunction value.display)

namespace FilterLeaf

def ofFields (fields : List (String × Value)) : FilterLeaf where
  field := Value.fieldOrNull fields "field"
  operator := Value.fieldOrNull fields "operator"
  value := Value.fieldOrNull fields "value"

def shown (leaf : FilterLeaf) : String :=
  "FilterLeaf(field=" ++ leaf.field.shown ++ ", operator=" ++ leaf.operator.shown ++ ", value=" ++
    leaf.value.shown ++ ")"

end FilterLeaf

namespace FilterNode

def describesGroup (fields : List (String × Value)) : Bool :=
  (Value.field? fields "logic").isSome && (Value.field? fields "filters").isSome

mutual

def ofValue : Value → Except Error FilterNode
  | .object fields =>
    if describesGroup fields then do
      let logic ← (Value.fieldOrNull fields "logic").toLogic
      return .group logic (← childrenOf fields)
    else .ok (.leaf (FilterLeaf.ofFields fields))
  | _ => .ok (.leaf {})

/-- The nodes of the field that holds the filters; anything but a list holds none. -/
def childrenOf : List (String × Value) → Except Error (List FilterNode)
  | [] => .ok []
  | (name, value) :: rest =>
    if name = "filters" then
      match value with
      | .list items => ofValues items
      | _ => .ok []
    else childrenOf rest

def ofValues : List Value → Except Error (List FilterNode)
  | [] => .ok []
  | value :: rest => return (← ofValue value) :: (← ofValues rest)

end

end FilterNode

structure FilterTree where
  logic : Junction
  children : List FilterNode
  deriving Repr

namespace FilterTree

def toNode (tree : FilterTree) : FilterNode := .group tree.logic tree.children

/-- Reads a filter tree. A root that is no group is skipped with a note. -/
def ofValue (value : Value) : Except Error (Option FilterTree) × Log :=
  if !value.truthy then (.ok none, [])
  else
    match value with
    | .object fields =>
      if FilterNode.describesGroup fields then
        ((FilterNode.ofValue value).map fun
          | .group logic children => some ⟨logic, children⟩
          | .leaf _ => none, [])
      else (.ok none, [skipped])
    | _ => (.ok none, [skipped])
where
  skipped : Note := ⟨.warning, "Filter tree without logic or filters skipped: " ++ value.display⟩

end FilterTree

end DataGrid
