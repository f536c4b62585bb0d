import DataGrid.Predicate.Script
import DataGrid.Proofs.GroupBuilding
import DataGrid.Proofs.ScriptTrees

/-! Where a step may write in the store. It opens groups, adds entries to some of those that were there, and nests in
them groups that it opened or was handed; all other groups keep what they hold. -/

namespace DataGrid

open Sql

namespace Store

theorem nestedNamed_size {store grown : Store} {id inner : Nat} {word : Value}
    (opened : store.nestedNamed id word = .ok (inner, grown)) : inner = store.size := by
  obtain ⟨junction, _, same⟩ := Except.bind_ok opened
  cases same
  rfl

/-- A step that adds entries to the targets and to groups of its own alone, and nests only linked groups and its own. -/
structure Writes (target link : GroupId → Prop) (before after : Store) : Prop where
  size : before.size ≤ after.size
  kept : ∀ id : Nat, id < before.size → ¬target id → after.entries id = before.entries id
  nests : ∀ (id : Nat) junction (inner : Nat), (junction, Entry.group inner) ∈ after.entries id →
    (junction, Entry.group inner) ∈ before.entries id ∨
      (target id ∨ before.size ≤ id) ∧ (link inner ∨ before.size ≤ inner) ∧ inner < after.size

namespace Writes

variable {target link target' link' : GroupId → Prop} {before between after : Store}

theorem refl (store : Store) : Writes target link store store := ⟨Nat.le_refl _, fun _ _ _ => rfl, fun _ _ _ => .inl⟩

theorem closed (step : Writes target link before after) (closed : before.Closed) : after.Closed := by
  intro id junction inner member
  rcases step.nests id junction inner member with old | ⟨_, _, inside⟩
  · exact Nat.lt_of_lt_of_le (closed id junction inner old) step.size
  · exact inside

theorem trans (one : Writes target link before between) (other : Writes target' link' between after)
    (targets : ∀ id : Nat, target' id → target id ∨ before.size ≤ id)
    (links : ∀ inner : Nat, link' inner → link inner ∨ before.size ≤ inner) : Writes target link before after := by
  have sizes := one.size
  refine ⟨Nat.le_trans one.size other.size, ?_, ?_⟩
  · intro id old spared
    have spared' : ¬target' id := fun written => (targets id written).elim spared (Nat.not_le_of_lt old)
    rw [other.kept id (Nat.lt_of_lt_of_le old sizes) spared', one.kept id old spared]
  · intro id junction inner member
    rcases other.nests id junction inner member with middle | ⟨written, linked, inside⟩
    · rcases one.nests id junction inner middle with old | ⟨written, linked, inside⟩
      · exact .inl old
      · exact .inr ⟨written, linked, Nat.lt_of_lt_of_le inside other.size⟩
    · refine .inr ⟨written.elim (targets id) fun later => .inr (Nat.le_trans sizes later), ?_, inside⟩
      exact linked.elim (links inner) fun later => .inr (Nat.le_trans sizes later)

/-- Two steps within the same bounds. -/
theorem followed (one : Writes target link before between) (other : Writes target link between after) :
    Writes target link before after :=
  one.trans other (fun _ => .inl) fun _ => .inl

theorem weaken (step : Writes target link before after) (targets : ∀ id, target id → target' id)
    (links : ∀ inner, link inner → link' inner) : Writes target' link' before after := by
  refine ⟨step.size, fun id old spared => step.kept id old fun written => spared (targets id written), ?_⟩
  intro id junction inner member
  rcases step.nests id junction inner member with old | ⟨written, linked, inside⟩
  · exact .inl old
  · exact .inr ⟨written.imp_left (targets id), linked.imp_left (links inner), inside⟩

theorem fresh (store : Store) : Writes target link store store.fresh.2 := by
  refine ⟨by simp, fun id _ _ => entries_fresh store id, ?_⟩
  intro id junction inner member
  rw [entries_fresh] at member
  exact .inl member

theorem add {store : Store} {id : Nat} (junction : Junction) {entry : Entry} (written : target id)
    (linked : ∀ inner : Nat, entry = .group inner → link inner ∧ inner < store.size) :
    Writes target link store (store.add id junction entry) := by
  refine ⟨by simp, ?_, ?_⟩
  · intro other _ spared
    exact entries_add_other _ _ fun same => spared (same ▸ written)
  · intro other word inner member
    rcases mem_add member with old | ⟨rfl, _, same⟩
    · exact .inl old
    · cases same
      obtain ⟨allowed, inside⟩ := linked inner rfl
      exact .inr ⟨.inl written, .inl allowed, by simpa using inside⟩

/-- A group that a step has opened is nested in one that it may write to. -/
theorem nest {id inner : Nat} (step : Writes target link before between) (junction : Junction)
    (written : target id ∨ before.size ≤ id) (opened : before.size ≤ inner) (inside : inner < between.size) :
    Writes target link before (between.add id junction (.group inner)) := by
  have added : Writes (· = id) (· = inner) between (between.add id junction (.group inner)) := by
    refine add junction rfl ?_
    rintro _ ⟨⟩
    exact ⟨rfl, inside⟩
  refine step.trans added ?_ ?_
  · rintro _ rfl
    exact written
  · rintro _ rfl
    exact .inr opened

theorem nested (store : Store) {id : Nat} (junction : Junction) (written : target id) :
    Writes target link store (store.nested id junction).2 :=
  (fresh store).nest junction (.inl written) (Nat.le_refl _) (by rw [size_fresh]; exact Nat.lt_succ_self _)

theorem nestedNamed {store grown : Store} {id inner : Nat} {word : Value} (written : target id)
    (opened : store.nestedNamed id word = .ok (inner, grown)) : Writes target link store grown := by
  obtain ⟨junction, _, same⟩ := Except.bind_ok opened
  cases same
  exact nested store junction written

theorem call {store grown : Store} {adapter : Adapter} {id : Nat} {method : GroupMethod} {arguments : List Argument}
    (written : target id) (called : store.call adapter id method arguments = .ok grown) :
    Writes target link store grown := by
  obtain ⟨⟨entry, word⟩, made, called⟩ := Except.bind_ok called
  obtain ⟨junction, _, same⟩ := Except.bind_ok called
  cases same
  refine add junction written ?_
  rintro inner rfl
  obtain ⟨_, absurd⟩ | ⟨_, absurd⟩ := GroupMethod.entry_leaf made
  · cases absurd
  · cases absurd

end Writes

end Store

mutual

/-- However a script ends, it has written below its group alone. -/
theorem GroupStep.run_writes (adapter : Adapter) (id : Nat) (step : GroupStep) (store : Store) :
    Store.Writes (· = id) (fun _ => False) store (step.run adapter id store).2 := by
  match step with
  | .call method arguments =>
    simp only [GroupStep.run]
    split
    · next called => exact .call rfl called
    · exact .refl store
  | .nested word steps =>
    simp only [GroupStep.run]
    split
    · next inner grown opened =>
      have first : Store.Writes (· = id) (fun _ => False) store grown := .nestedNamed rfl opened
      obtain rfl := Store.nestedNamed_size opened
      refine first.trans (GroupStep.runAll_writes adapter _ steps grown) ?_ fun _ => .inl
      rintro _ rfl
      exact .inr (Nat.le_refl _)
    · exact .refl store

theorem GroupStep.runAll_writes (adapter : Adapter) (id : Nat) (steps : List GroupStep) (store : Store) :
    Store.Writes (· = id) (fun _ => False) store (GroupStep.runAll adapter id steps store).2 := by
  match steps with
  | [] => exact .refl store
  | step :: rest =>
    have first := GroupStep.run_writes adapter id step store
    simp only [GroupStep.runAll]
    split
    · next grown ran =>
      rw [ran] at first
      exact first.followed (GroupStep.runAll_writes adapter id rest grown)
    · next ran =>
      rw [ran] at first
      exact first

end

end DataGrid
