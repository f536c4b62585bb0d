import DataGrid.Filter.Compile
import DataGrid.Proofs.ActionSteps
import DataGrid.Proofs.StoreGrowth

/-! What a filter tree adds to a group: a group for each of its own, a predicate for each leaf, and nothing for a
leaf that is left out. -/

namespace DataGrid

open Sql

def FilterLeaf.additions (adapter : Adapter) (junction : Junction) (leaf : FilterLeaf) : Except Error Forest := do
  match ← leaf.outcome adapter with
  | .skipped _ => return []
  | .predicate test => return [(junction, .cond (.atom test))]

namespace FilterNode

mutual

def additions (adapter : Adapter) (junction : Junction) : FilterNode → Except Error Forest
  | .leaf content => content.additions adapter junction
  | .group logic children => return [(junction, .group (← allAdditions adapter logic children))]

def allAdditions (adapter : Adapter) (junction : Junction) : List FilterNode → Except Error Forest
  | [] => .ok []
  | node :: rest => return (← node.additions adapter junction) ++ (← allAdditions adapter junction rest)

end

end FilterNode

variable {adapter : Adapter} {id : Nat} {junction : Junction}

theorem FilterLeaf.compile_appends {leaf : FilterLeaf} {before after : Scope} {added : Bool}
    (inside : id < before.store.size) (ran : leaf.compile adapter id junction before = (.ok added, after)) :
    ∃ forest, leaf.additions adapter junction = .ok forest ∧
      Store.Appends id before.store after.store forest := by
  cases found : leaf.outcome adapter with
  | error failure =>
    simp only [compile, found] at ran
    cases ran
  | ok outcome =>
    cases outcome with
    | skipped reason =>
      simp only [compile, found] at ran
      cases ran
      refine ⟨[], ?_, .refl _ _⟩
      simp only [additions, found, Except.ok_bind]
      rfl
    | predicate test =>
      simp only [compile, found] at ran
      cases ran
      refine ⟨[(junction, .cond (.atom test))], ?_, .cond inside junction _⟩
      simp only [additions, found, Except.ok_bind]
      rfl

mutual

/-- A node that is compiled appends what it adds. -/
theorem FilterNode.compile_appends {node : FilterNode} {id : Nat} {junction : Junction} {before after : Scope}
    (inside : id < before.store.size) (ran : node.compile adapter id junction before = (.ok (), after)) :
    ∃ forest, node.additions adapter junction = .ok forest ∧
      Store.Appends id before.store after.store forest := by
  match node with
  | .leaf content =>
    rw [FilterNode.compile] at ran
    obtain ⟨added, middle, compiled, done⟩ := Action.bind_ok ran
    cases done
    rw [FilterNode.additions]
    exact FilterLeaf.compile_appends inside compiled
  | .group logic children =>
    simp only [FilterNode.compile] at ran
    have later : before.store.size < (before.store.nested id junction).2.size := by simp [Store.nested]
    obtain ⟨forest, read, appended⟩ := FilterNode.compileAll_appends later ran
    refine ⟨[(junction, .group forest)], ?_, appended.nested inside junction⟩
    simp only [FilterNode.additions, read, Except.ok_bind]
    rfl

theorem FilterNode.compileAll_appends {nodes : List FilterNode} {id : Nat} {junction : Junction}
    {before after : Scope} (inside : id < before.store.size)
    (ran : FilterNode.compileAll adapter id junction nodes before = (.ok (), after)) :
    ∃ forest, FilterNode.allAdditions adapter junction nodes = .ok forest ∧
      Store.Appends id before.store after.store forest := by
  match nodes with
  | [] =>
    simp only [FilterNode.compileAll] at ran
    cases ran
    exact ⟨[], by rw [FilterNode.allAdditions], .refl _ _⟩
  | node :: rest =>
    rw [FilterNode.compileAll] at ran
    obtain ⟨_, middle, first, others⟩ := Action.bind_ok ran
    obtain ⟨forest, read, one⟩ := FilterNode.compile_appends inside first
    obtain ⟨later, more, all⟩ := FilterNode.compileAll_appends (Nat.lt_of_lt_of_le inside one.size) others
    refine ⟨forest ++ later, ?_, one.trans inside all⟩
    simp only [FilterNode.allAdditions, read, more, Except.ok_bind]
    rfl

end

end DataGrid
