import DataGrid.Proofs.GroupUnfolding

/-! How the store grows. Groups are only added and entries only appended, so a step is described by the
forest that it appends to one group: the groups of the forest are new, and every other group that was there
before holds what it held. -/

namespace DataGrid.Store

open Sql

variable {store : Store}

@[simp] theorem fresh_fst (store : Store) : store.fresh.1 = store.size := rfl

@[simp] theorem size_fresh (store : Store) : store.fresh.2.size = store.size + 1 := by
  simp [fresh, size]

@[simp] theorem entries_fresh (store : Store) (id : Nat) : store.fresh.2.entries id = store.entries id := by
  simp only [entries, fresh, List.getD_eq_getElem?_getD]
  rcases Nat.lt_trichotomy id store.groups.length with before | rfl | after
  · rw [List.getElem?_append_left before]
  · simp
  · rw [List.getElem?_append_right (Nat.le_of_lt after), List.getElem?_eq_none (Nat.le_of_lt after),
      List.getElem?_eq_none (by simp; omega)]

@[simp] theorem size_add (store : Store) (id : Nat) (junction : Junction) (entry : Entry) :
    (store.add id junction entry).size = store.size := by
  simp [add, size]

theorem entries_add_same {id : Nat} (junction : Junction) (entry : Entry) (inside : id < store.size) :
    (store.add id junction entry).entries id = store.entries id ++ [(junction, entry)] := by
  have found : id < store.groups.length := inside
  simp [add, entries, List.getD_eq_getElem?_getD, List.getElem?_eq_getElem found]

theorem entries_add_other {id other : Nat} (junction : Junction) (entry : Entry) (different : other ≠ id) :
    (store.add id junction entry).entries other = store.entries other := by
  have kept : ∀ groups : List (List (Junction × Entry)),
      (groups.modify id (· ++ [(junction, entry)]))[other]? = groups[other]? := by
    intro groups
    simp [Ne.symm different]
  simp only [add, entries, List.getD_eq_getElem?_getD, kept]

theorem mem_add {id other : Nat} {junction : Junction} {entry : Entry} {held : Junction × Entry}
    (member : held ∈ (store.add id junction entry).entries other) :
    held ∈ store.entries other ∨ (other = id ∧ id < store.size ∧ held = (junction, entry)) := by
  by_cases same : other = id
  · subst same
    by_cases inside : other < store.size
    · rw [entries_add_same junction entry inside] at member
      rcases List.mem_append.mp member with before | added
      · exact .inl before
      · exact .inr ⟨rfl, inside, List.mem_singleton.mp added⟩
    · have outside : (store.add other junction entry).size ≤ other := by simpa using inside
      rw [entries_eq_nil outside] at member
      cases member
  · rw [entries_add_other junction entry same] at member
    exact .inl member

theorem Closed.empty : ({} : Store).Closed := by
  intro id junction inner member
  cases member

theorem Closed.fresh (closed : store.Closed) : store.fresh.2.Closed := by
  intro id junction inner member
  rw [entries_fresh] at member
  rw [size_fresh]
  exact Nat.lt_succ_of_lt (closed id junction inner member)

theorem Closed.add (closed : store.Closed) (id : Nat) (junction : Junction) {entry : Entry}
    (inside : ∀ inner : Nat, entry = .group inner → inner < store.size) : (store.add id junction entry).Closed := by
  intro other word inner member
  rw [size_add]
  rcases mem_add member with before | ⟨_, _, same⟩
  · exact closed other word inner before
  · cases same
    exact inside inner rfl

theorem Closed.nested (closed : store.Closed) (id : Nat) (junction : Junction) :
    (store.nested id junction).2.Closed := by
  apply closed.fresh.add id junction
  rintro inner ⟨⟩
  rw [size_fresh]
  exact Nat.lt_succ_self _

/-- A step appends a forest to a group. -/
structure Appends (id : Nat) (before after : Store) (forest : Forest) : Prop where
  size : before.size ≤ after.size
  closed : before.Closed → after.Closed
  kept : ∀ other : Nat, other < before.size → other ≠ id → after.entries other = before.entries other
  grown : ∃ entries, after.entries id = before.entries id ++ entries ∧
    Shows after (fun other : Nat => before.size ≤ other ∧ other < after.size) entries forest

namespace Appends

variable {id : Nat} {before between after : Store} {first second forest : Forest}

theorem refl (id : Nat) (store : Store) : Appends id store store [] where
  size := Nat.le_refl _
  closed same := same
  kept _ _ _ := rfl
  grown := ⟨[], by simp, .nil⟩

theorem trans (inside : id < before.size) (one : Appends id before between first)
    (other : Appends id between after second) : Appends id before after (first ++ second) where
  size := Nat.le_trans one.size other.size
  closed start := other.closed (one.closed start)
  kept group old different := by
    have early := one.size
    rw [other.kept group (by omega) different, one.kept group old different]
  grown := by
    obtain ⟨early, same, shown⟩ := one.grown
    obtain ⟨late, grown, added⟩ := other.grown
    have sizes := one.size
    have more := other.size
    -- The second step writes to the group itself and to groups that it opens, so the trees of the first one stay.
    refine ⟨early ++ late, by rw [grown, same, List.append_assoc], .append ?_ ?_⟩
    · exact shown.transfer fun group ⟨low, high⟩ => ⟨other.kept group high (by omega), low, by omega⟩
    · exact added.transfer fun group ⟨low, high⟩ => ⟨rfl, by omega, high⟩

theorem cond (inside : id < before.size) (junction : Junction) (condition : Cond) :
    Appends id before (before.add id junction (.cond condition)) [(junction, .cond condition)] where
  size := by simp
  closed start := start.add id junction (by simp)
  kept _ _ different := entries_add_other _ _ different
  grown := ⟨_, entries_add_same _ _ inside, .cond junction condition .nil⟩

theorem settled (inside : id < before.size) (junction : Junction) (flag : Bool) :
    Appends id before (before.add id junction (.settled flag)) [(junction, .settled flag)] where
  size := by simp
  closed start := start.add id junction (by simp)
  kept _ _ different := entries_add_other _ _ different
  grown := ⟨_, entries_add_same _ _ inside, .settled junction flag .nil⟩

/-- The region of a group that was opened after `before`, once it holds what was appended to it. -/
private theorem held {opened : Store} (sizes : opened.size = before.size + 1) (empty : opened.entries before.size = [])
    (step : Appends before.size opened after forest) :
    Unfolds after (fun other : Nat => before.size ≤ other ∧ other < after.size) before.size forest := by
  obtain ⟨entries, grown, shown⟩ := step.grown
  have more := step.size
  refine .intro ⟨Nat.le_refl _, by omega⟩ ?_
  rw [grown, empty, List.nil_append]
  exact shown.transfer fun other ⟨low, high⟩ => ⟨rfl, by omega, high⟩

/-- A group that is opened inside another one and then filled. -/
theorem nested (inside : id < before.size) (junction : Junction)
    (step : Appends before.size (before.nested id junction).2 after forest) :
    Appends id before after [(junction, .group forest)] := by
  have sizes : (before.nested id junction).2.size = before.size + 1 := by simp [Store.nested]
  have opened : (before.nested id junction).2.entries id = before.entries id ++ [(junction, .group before.size)] := by
    simp [Store.nested, entries_add_same _ _ (show id < before.fresh.2.size by simp; omega)]
  have empty : (before.nested id junction).2.entries before.size = [] := by
    simp [Store.nested, entries_add_other _ _ (show before.size ≠ id by omega), entries_eq_nil]
  have more := step.size
  refine ⟨by omega, fun start => step.closed (start.nested id junction), ?_,
    ⟨_, ?_, .group junction (held sizes empty step) .nil⟩⟩
  · intro (other : Nat) old different
    rw [step.kept other (by omega) (by omega)]
    simp [Store.nested, entries_add_other _ _ different]
  · rw [step.kept id (by omega) (by omega), opened]

/-- A group that is filled on its own and then added to another one. -/
theorem scope (inside : id < before.size) (junction : Junction)
    (step : Appends before.size before.fresh.2 after forest) :
    Appends id before (after.add id junction (.group before.size)) [(junction, .group forest)] := by
  have sizes := size_fresh before
  have more := step.size
  have filled := held sizes (by simp [entries_eq_nil]) step
  refine ⟨by simp; omega, ?_, ?_,
    ⟨[(junction, .group before.size)], ?_, .group junction (filled.transfer ?_) .nil⟩⟩
  · intro start
    refine (step.closed start.fresh).add id junction ?_
    intro _ found
    cases found
    omega
  · intro (other : Nat) old different
    rw [entries_add_other _ _ different, step.kept other (by omega) (by omega), entries_fresh]
  · rw [entries_add_same _ _ (by omega), step.kept id (by omega) (by omega), entries_fresh]
  · rintro other ⟨low, high⟩
    exact ⟨entries_add_other _ _ (by omega), low, by simpa using high⟩

/-- What a group holds after a forest was appended to it. -/
theorem unfolds {held : Forest} (step : Appends id before after forest)
    (closed : before.Closed) (unfolds : Unfolds before (fun _ => True) id held) :
    Unfolds after (fun _ => True) id (held ++ forest) := by
  obtain ⟨entries, grown, shown⟩ := step.grown
  refine .intro trivial ?_
  rw [grown]
  refine .append ?_ (shown.transfer fun _ _ => ⟨rfl, trivial⟩)
  -- What the group held before is made of old groups other than itself, and these are kept.
  refine (Shows.stored closed unfolds.apart (closed id)).transfer fun other member => ⟨?_, trivial⟩
  exact step.kept other member.2 member.1.2

end Appends

end DataGrid.Store
