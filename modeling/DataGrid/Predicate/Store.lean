import DataGrid.Sql.Condition

/-!
Predicate groups. A group is a list of conditions and nested groups, each joined to what stands before
it by `and` or `or`; groups live in a store and are referred to by their place in it, so that one group
can be nested in several others and is seen by all of them when it grows.

`Store.clause?` reads a group as a clause: `and` binds tighter than `or`, the word of the first entry does
not count, and nested groups that hold nothing are left out. A nested group has to come to a condition, and
a group that is nested in itself cannot be read.
-/

namespace DataGrid

open Sql

abbrev GroupId := Nat

/-- What a group holds: a condition, a truth value in the place of one, or another group. -/
inductive Entry where
  | cond (condition : Cond)
  | settled (flag : Bool)
  | group (id : GroupId)
  deriving Repr

structure Store where
  groups : List (List (Junction × Entry)) := []
  deriving Repr

namespace Store

def fresh (store : Store) : GroupId × Store := (store.groups.length, ⟨store.groups ++ [[]]⟩)

def entries (store : Store) (id : GroupId) : List (Junction × Entry) := store.groups.getD id []

def add (store : Store) (id : GroupId) (junction : Junction) (entry : Entry) : Store :=
  ⟨store.groups.modify id (· ++ [(junction, entry)])⟩

def nested (store : Store) (id : GroupId) (junction : Junction) : GroupId × Store :=
  let (inner, grown) := store.fresh
  (inner, grown.add id junction (.group inner))

/-- Whether a group holds no condition, when no chain of nested groups exceeds the given depth. -/
def emptyWithin (store : Store) : (depth : Nat) → GroupId → Except Error Bool
  | 0, _ => .error .tooDeep
  | depth + 1, id =>
    (store.entries id).allM fun (_, entry) =>
      match entry with
      | .cond _ | .settled _ => .ok false
      | .group inner => emptyWithin store depth inner

/-- How long a chain of nested groups may be when each takes some steps; a chain that is longer than the
store has a group inside itself. -/
def depth (store : Store) (steps : Nat) : Nat := min (store.groups.length + 1) (stepLimit / steps)

def isEmpty (store : Store) (id : GroupId) : Except Error Bool := store.emptyWithin (store.depth 3) id

/-- Cuts a list before each `or`. -/
def alternatives {α : Type} : List (Junction × α) → List (List α)
  | [] => []
  | (_, item) :: rest =>
    match rest, alternatives rest with
    | (.and, _) :: _, first :: others => (item :: first) :: others
    | _, others => [item] :: others

/-- Reads a list of clauses with `and` binding tighter than `or`. -/
def fold (clauses : List (Junction × Clause)) : Option Clause :=
  match alternatives clauses with
  | [] => none
  | chunks => some (Clause.join .or (chunks.map (Clause.join .and)))

def entryClause (store : Store) (groupClause : GroupId → Except Error (Option Clause)) :
    Entry → Except Error (Option Clause)
  | .cond condition => .ok (some (.cond condition))
  | .settled flag => .ok (some (.settled flag))
  | .group inner => do
    if ← store.isEmpty inner then return none
    match ← groupClause inner with
    | none => return none
    | some (.cond condition) => return some (.cond (.group condition))
    | some (.settled _) => throw .noSuchMember

/-- The clause of a group, when no chain of nested groups exceeds the given depth. -/
def clauseWithin (store : Store) : (depth : Nat) → GroupId → Except Error (Option Clause)
  | 0, _ => .error .tooDeep
  | depth + 1, id => do
    let clauses ← (store.entries id).mapM fun (junction, entry) =>
      return (← entryClause store (clauseWithin store depth) entry).map fun clause => (junction, clause)
    return fold (clauses.filterMap fun clause => clause)

def clause? (store : Store) (id : GroupId) : Except Error (Option Clause) := store.clauseWithin (store.depth 1) id

/-- Copies the entries of a group into another one, nested groups included. -/
def copyEntries (copyGroup : Store → GroupId → Except Error (GroupId × Store)) (target : GroupId) :
    Store → List (Junction × Entry) → Except Error Store
  | store, [] => .ok store
  | store, (junction, .cond condition) :: rest =>
    copyEntries copyGroup target (store.add target junction (.cond condition)) rest
  | store, (junction, .settled flag) :: rest =>
    copyEntries copyGroup target (store.add target junction (.settled flag)) rest
  | store, (junction, .group inner) :: rest => do
    let (duplicate, grown) ← copyGroup store inner
    copyEntries copyGroup target (grown.add target junction (.group duplicate)) rest

/-- Copies a group, when no chain of nested groups exceeds the given depth. -/
def copyWithin : (depth : Nat) → Store → GroupId → Except Error (GroupId × Store)
  | 0, _, _ => .error .tooDeep
  | depth + 1, store, id => do
    let (target, grown) := store.fresh
    return (target, ← copyEntries (copyWithin depth) target grown (store.entries id))

def copy (store : Store) (id : GroupId) : Except Error (GroupId × Store) := copyWithin (store.depth 2) store id

end Store

end DataGrid
