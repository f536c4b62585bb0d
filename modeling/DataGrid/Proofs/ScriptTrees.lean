import DataGrid.Predicate.Script
import DataGrid.Proofs.MethodConditions
import DataGrid.Proofs.StoreGrowth

/-! What scripts add to a group. The conditions of a script depend on its steps alone, not on the store in
which it runs: a script that runs through appends them, and leaves every other group as it was. -/

namespace DataGrid

open Sql

/-- An entry apart from the store; methods add no groups. -/
def Entry.leaf : Entry → PredicateTree
  | .cond condition => .cond condition
  | .settled flag => .settled flag
  | .group _ => .group []

def GroupMethod.addition (method : GroupMethod) (adapter : Adapter) (arguments : List Argument) :
    Except Error (Junction × PredicateTree) := do
  let (entry, word) ← method.entry adapter arguments
  return (← word.toJunction, entry.leaf)

mutual

def GroupStep.addition (adapter : Adapter) : GroupStep → Except Error (Junction × PredicateTree)
  | .call method arguments => method.addition adapter arguments
  | .nested word steps => do
    let junction ← word.toJunction
    return (junction, .group (← GroupStep.additions adapter steps))

def GroupStep.additions (adapter : Adapter) : List GroupStep → Except Error Forest
  | [] => .ok []
  | step :: rest => do
    let first ← step.addition adapter
    return first :: (← GroupStep.additions adapter rest)

end

/-- A method adds a condition, or the truth value of a comparison. -/
theorem GroupMethod.entry_leaf {method : GroupMethod} {adapter : Adapter} {arguments : List Argument} {entry : Entry}
    {word : Value} (made : method.entry adapter arguments = .ok (entry, word)) :
    (∃ condition, entry = .cond condition) ∨ ∃ flag, entry = .settled flag := by
  have compared {column operator value} (made : adapter.comparisonOf column operator value = .ok entry) :
      (∃ condition, entry = .cond condition) ∨ ∃ flag, entry = .settled flag := by
    obtain ⟨comparison, _, made⟩ := Except.bind_ok made
    split at made
    · obtain ⟨test, _, same⟩ := Except.bind_ok made
      cases same
      exact .inl ⟨_, rfl⟩
    · obtain ⟨flag, _, same⟩ := Except.bind_ok made
      cases same
      exact .inr ⟨_, rfl⟩
  have tested {column test} (made : adapter.testOf column test = .ok entry) :
      ∃ condition, entry = .cond condition := by
    unfold Adapter.testOf at made
    split at made
    · obtain ⟨test, _, same⟩ := Except.bind_ok made
      cases same
      exact ⟨_, rfl⟩
    · cases made
  cases method with
  | compare | orCompare =>
    obtain ⟨_, _, made⟩ := Except.bind_ok made
    obtain ⟨found, result, same⟩ := Except.bind_ok made
    cases same
    exact compared result
  | raw | orRaw =>
    obtain ⟨_, _, made⟩ := Except.bind_ok made
    obtain ⟨found, written, same⟩ := Except.bind_ok made
    cases same
    obtain ⟨content, _, same⟩ := rawOf_fragment written
    exact .inl ⟨_, same⟩
  | member | null | notNull =>
    obtain ⟨_, _, made⟩ := Except.bind_ok made
    obtain ⟨found, result, same⟩ := Except.bind_ok made
    cases same
    exact .inl (tested result)

namespace Store

variable {store grown : Store} {adapter : Adapter} {id : Nat}

theorem call_appends {method : GroupMethod} {arguments : List Argument} (inside : id < store.size)
    (called : store.call adapter id method arguments = .ok grown) :
    ∃ entry, method.addition adapter arguments = .ok entry ∧ Appends id store grown [entry] := by
  obtain ⟨⟨entry, word⟩, made, called⟩ := Except.bind_ok called
  obtain ⟨junction, named, same⟩ := Except.bind_ok called
  cases same
  refine ⟨(junction, entry.leaf), ?_, ?_⟩
  · simp only [GroupMethod.addition, made, named, Except.ok_bind]
    rfl
  · rcases GroupMethod.entry_leaf made with ⟨condition, rfl⟩ | ⟨flag, rfl⟩
    · exact .cond inside junction condition
    · exact .settled inside junction flag

end Store

mutual

theorem GroupStep.run_appends {adapter : Adapter} {step : GroupStep} {id : Nat} {store grown : Store}
    (inside : id < store.size) (ran : step.run adapter id store = (.ok (), grown)) :
    ∃ entry, step.addition adapter = .ok entry ∧ Store.Appends id store grown [entry] := by
  match step with
  | .call method arguments =>
    cases called : store.call adapter id method arguments with
    | error failure =>
      simp only [GroupStep.run, called] at ran
      cases ran
    | ok after =>
      simp only [GroupStep.run, called] at ran
      cases ran
      rw [GroupStep.addition]
      exact Store.call_appends inside called
  | .nested word steps =>
    cases opened : store.nestedNamed id word with
    | error failure =>
      simp only [GroupStep.run, opened] at ran
      cases ran
    | ok pair =>
      simp only [GroupStep.run, opened] at ran
      obtain ⟨junction, named, same⟩ := Except.bind_ok opened
      cases same
      have later : store.size < (store.nested id junction).2.size := by simp [Store.nested]
      obtain ⟨forest, read, appended⟩ := GroupStep.runAll_appends later ran
      refine ⟨(junction, .group forest), ?_, appended.nested inside junction⟩
      simp only [GroupStep.addition, named, read, Except.ok_bind]
      rfl

/-- A script that runs through appends what its steps add, in their order. -/
theorem GroupStep.runAll_appends {adapter : Adapter} {steps : List GroupStep} {id : Nat} {store grown : Store}
    (inside : id < store.size) (ran : GroupStep.runAll adapter id steps store = (.ok (), grown)) :
    ∃ forest, GroupStep.additions adapter steps = .ok forest ∧ Store.Appends id store grown forest := by
  match steps with
  | [] =>
    cases ran
    exact ⟨[], rfl, .refl id store⟩
  | step :: rest =>
    cases first : step.run adapter id store with
    | mk result middle =>
      simp only [GroupStep.runAll, first] at ran
      cases result with
      | error failure => cases ran
      | ok done =>
        obtain ⟨entry, read, one⟩ := GroupStep.run_appends inside first
        obtain ⟨forest, others, more⟩ := GroupStep.runAll_appends (Nat.lt_of_lt_of_le inside one.size) ran
        refine ⟨entry :: forest, ?_, one.trans inside more⟩
        simp only [GroupStep.additions, read, others, Except.ok_bind]
        rfl

end

end DataGrid
