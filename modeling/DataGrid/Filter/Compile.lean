import DataGrid.Filter.Tree
import DataGrid.Predicate.Method

/-!
Compiling a filter tree into predicate groups: a nested group for each group, a predicate for each leaf.
Leaves that lack a part or name no operator are noted and left out.
-/

namespace DataGrid

open Sql

structure Scope where
  store : Store
  log : Log := []

inductive LeafOutcome where
  | predicate (test : Atom)
  | skipped (reason : String)
  deriving Repr

namespace FilterLeaf

def outcome (adapter : Adapter) (leaf : FilterLeaf) : Except Error LeafOutcome :=
  if leaf.field.missing || leaf.operator.missing || leaf.value.missing then
    .ok (.skipped ("Filter skipped, some important value is not set: " ++ leaf.shown))
  else
    match FilterOperator.ofWord? (String.ofList (Text.trim leaf.operator.display.toList)) with
    | none => .ok (.skipped ("Filter skipped, " ++ leaf.operator.display ++ " is unknown"))
    | some operator =>
      (operator.predicate (adapter.column leaf.field.display) leaf.value).map .predicate

/-- Adds the predicate of a leaf to a group; false when the leaf is left out. -/
def compile (adapter : Adapter) (id : GroupId) (junction : Junction) (leaf : FilterLeaf) : Action Scope Bool :=
  fun scope =>
    match leaf.outcome adapter with
    | .error failure => (.error failure, scope)
    | .ok (.skipped reason) => (.ok false, { scope with log := scope.log ++ [⟨.error, reason⟩] })
    | .ok (.predicate test) =>
      (.ok true, { scope with store := scope.store.add id junction (.cond (.atom test)) })

/-- Adds the predicate of a leaf under a junction that a value names; a leaf that is left out needs none. -/
def compileNamed (adapter : Adapter) (id : GroupId) (junction : Value) (leaf : FilterLeaf) : Action Scope Bool :=
  fun scope =>
    match leaf.outcome adapter, junction.toJunction with
    | .ok (.predicate _), .error failure => (.error failure, scope)
    | _, .error _ => leaf.compile adapter id .and scope
    | _, .ok junction => leaf.compile adapter id junction scope

end FilterLeaf

namespace FilterNode

mutual

/-- Compiles a node into a group, joined to what the group holds by the junction. -/
def compile (adapter : Adapter) (id : GroupId) (junction : Junction) : FilterNode → Action Scope Unit
  | .leaf content => discard (content.compile adapter id junction)
  | .group logic children => fun scope =>
    let (inner, store) := scope.store.nested id junction
    compileAll adapter inner logic children { scope with store := store }

def compileAll (adapter : Adapter) (id : GroupId) (junction : Junction) : List FilterNode → Action Scope Unit
  | [] => pure ()
  | node :: rest => do
    node.compile adapter id junction
    compileAll adapter id junction rest

end

end FilterNode

def FilterTree.compile (adapter : Adapter) (id : GroupId) (tree : FilterTree) : Action Scope Unit :=
  tree.toNode.compile adapter id .and

end DataGrid
