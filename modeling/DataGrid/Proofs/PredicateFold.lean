import DataGrid.Proofs.ConditionReading

/-! Joining conditions keeps their values: terms that are laid flat, parentheses that are taken away or put
in, and truth values that are left out. A list of clauses is thereby worth its reference reading, and its
terms stay apart where no raw text with an open `or` shares an alternative. -/

namespace DataGrid.Sql

variable {reader : Reader} {assignment : Assignment}

/-- Whether a test gets parentheses as a term of a list. -/
def Atom.isShielded : Atom → Bool
  | .compare _ .unequal _ | .regexp .. => true
  | _ => false

namespace Cond

@[simp] theorem value_truth (flag : Bool) :
    (Cond.atom (.truth flag)).value reader assignment = .ofBool flag := by
  cases flag <;> rfl

@[simp] theorem value_group (inner : Cond) :
    (Cond.group inner).value reader assignment = inner.value reader assignment := by
  rw [value]

@[simp] theorem value_core (cond : Cond) : cond.core.value reader assignment = cond.value reader assignment := by
  fun_induction core with
  | case1 inner ih => rw [ih, value_group]
  | case2 => rfl

theorem Whole.core {cond : Cond} (whole : cond.Whole reader) : cond.core.Whole reader := by
  fun_induction Cond.core with
  | case1 inner ih => exact ih whole
  | case2 => exact whole

theorem shield_cases (junction : Junction) (cond : Cond) :
    cond.shield junction = cond ∨ cond.shield junction = .group cond := by
  unfold shield
  split
  · exact .inr rfl
  · exact .inr rfl
  · exact .inr rfl
  · split
    · exact .inr rfl
    · exact .inl rfl
  · exact .inl rfl

theorem shield_atom (junction : Junction) (test : Atom) :
    Cond.shield junction (.atom test) = if test.isShielded then .group (.atom test) else .atom test := by
  unfold shield Atom.isShielded
  split <;> split <;> simp_all

@[simp] theorem value_shield (junction : Junction) (cond : Cond) :
    (cond.shield junction).value reader assignment = cond.value reader assignment := by
  rcases cond.shield_cases junction with same | enclosed
  · rw [same]
  · rw [enclosed, value_group]

theorem Whole.shield {cond : Cond} (whole : cond.Whole reader) (junction : Junction) :
    (cond.shield junction).Whole reader := by
  rcases cond.shield_cases junction with same | enclosed
  · rwa [same]
  · rw [enclosed]
    exact whole

/-- Whether a condition can stand in a list joined by `and`, once it has the parentheses it needs there. -/
def Steady (reader : Reader) (cond : Cond) : Prop := (cond.shield .and).Tight reader

theorem Tight.steady {cond : Cond} (tight : cond.Tight reader) : cond.Steady reader := by
  rcases cond.shield_cases .and with same | enclosed
  · rwa [Steady, same]
  · rw [Steady, enclosed]
    trivial

theorem steady_joined (junction : Junction) (terms : List Cond) : (Cond.joined junction terms).Steady reader := by
  cases junction <;> trivial

theorem steady_group (inner : Cond) : (Cond.group inner).Steady reader := trivial

theorem value_termsOf (junction : Junction) (cond : Cond) :
    Truth.join junction ((cond.termsOf junction).map (value reader assignment)) = cond.value reader assignment := by
  unfold termsOf
  split
  · rename_i inner terms same
    split
    · rename_i joined
      rw [← value_core cond, same, value_joined, joined]
    · simp
  · simp

theorem Whole.termsOf_ne_nil {cond : Cond} (whole : cond.Whole reader) (junction : Junction) :
    cond.termsOf junction ≠ [] := by
  unfold Cond.termsOf
  split
  · rename_i inner terms same
    split
    · have core := whole.core
      rw [same, whole_joined] at core
      exact core.1
    · simp
  · simp

theorem Whole.termsOf {cond : Cond} (whole : cond.Whole reader) {junction : Junction}
    (steady : junction = .and → cond.Steady reader) :
    ∀ term ∈ cond.termsOf junction, term.Whole reader ∧ (junction = .and → term.Tight reader) := by
  have shielded : (cond.shield junction).Whole reader ∧ (junction = .and → (cond.shield junction).Tight reader) :=
    ⟨whole.shield junction, fun joined => joined ▸ steady joined⟩
  unfold Cond.termsOf
  split
  · rename_i inner terms same
    split
    · rename_i joined
      have core := whole.core
      rw [same, whole_joined, joined] at core
      exact core.2
    · simpa using shielded
  · simpa using shielded

theorem value_join (junction : Junction) (conds : List Cond) :
    (Cond.join junction conds).value reader assignment =
      .join junction (conds.map (value reader assignment)) := by
  have flat (conds : List Cond) :
      Truth.join junction ((conds.flatMap (termsOf junction)).map (value reader assignment)) =
        .join junction (conds.map (value reader assignment)) := by
    induction conds with
    | nil => rfl
    | cons cond rest ih =>
      rw [List.flatMap_cons, List.map_append, Truth.join_append, value_termsOf, ih, List.map_cons, Truth.join_cons]
  unfold join
  split
  · simp
  · rw [value_joined, flat]

theorem join_whole {junction : Junction} {conds : List Cond} (some : conds ≠ [])
    (whole : ∀ cond ∈ conds, cond.Whole reader)
    (steady : junction = .and → 1 < conds.length → ∀ cond ∈ conds, cond.Steady reader) :
    (Cond.join junction conds).Whole reader := by
  match conds with
  | [cond] => exact whole cond (by simp)
  | first :: second :: rest =>
    have terms := (whole first (by simp)).termsOf_ne_nil junction
    rw [Cond.join.eq_2 _ _ (by simp), whole_joined]
    refine ⟨by simp [terms], ?_⟩
    intro term member
    obtain ⟨cond, found, brought⟩ := List.mem_flatMap.mp member
    exact (whole cond found).termsOf (fun joined => steady joined (by simp) cond found) term brought

theorem join_steady {junction : Junction} {conds : List Cond} (steady : ∀ cond ∈ conds, cond.Steady reader) :
    (Cond.join junction conds).Steady reader := by
  unfold join
  split
  · exact steady _ (by simp)
  · exact steady_joined ..

end Cond

namespace Clause

def value (reader : Reader) (assignment : Assignment) : Clause → Truth
  | .cond condition => condition.value reader assignment
  | .settled flag => .ofBool flag

def Whole (reader : Reader) : Clause → Prop
  | .cond condition => condition.Whole reader
  | .settled _ => True

def Steady (reader : Reader) : Clause → Prop
  | .cond condition => condition.Steady reader
  | .settled _ => True

theorem steady_truth (flag : Bool) : (Clause.cond (.atom (.truth flag))).Steady reader :=
  fun _ => ⟨_, Reads.conjunction (.operand (Operand.constant flag))⟩

theorem whole_truth (flag : Bool) : (Clause.cond (.atom (.truth flag))).Whole reader :=
  fun _ => ⟨_, (Reads.operand (Operand.constant flag)).loosen .disjunction⟩

private theorem join_decided (junction : Junction) {clauses : List Clause}
    (decided : clauses.any (decides junction) = true) :
    Truth.join junction (clauses.map (value reader assignment)) = .ofBool (decisive junction) := by
  obtain ⟨clause, member, decides⟩ := List.any_eq_true.mp decided
  obtain ⟨before, after, rfl⟩ := List.append_of_mem member
  cases clause with
  | cond condition => cases decides
  | settled flag =>
    cases junction <;> cases flag <;> cases decides <;>
      simp [Truth.join_append, value, Truth.ofBool, Truth.combine, decisive]

private theorem join_undecided (junction : Junction) {clauses : List Clause}
    (undecided : ∀ clause ∈ clauses, decides junction clause = false) :
    Truth.join junction ((clauses.filterMap cond?).map (Cond.value reader assignment)) =
      .join junction (clauses.map (value reader assignment)) := by
  induction clauses with
  | nil => rfl
  | cons clause rest ih =>
    have same := ih fun clause member => undecided clause (by simp [member])
    cases clause with
    | cond condition => simp [cond?, same, value]
    | settled flag =>
      have open_ := undecided (.settled flag) (by simp)
      have left : Truth.ofBool flag = Truth.neutral junction := by
        cases junction <;> cases flag <;> first | rfl | cases open_
      simp [List.filterMap_cons, cond?, same, value, left]

/-- Clauses that are joined are worth the junction of their values. -/
theorem value_join (junction : Junction) (clauses : List Clause) :
    (join junction clauses).value reader assignment = .join junction (clauses.map (value reader assignment)) := by
  unfold join
  split
  · simp
  · split
    · rename_i decided
      rw [join_decided junction decided, value, Cond.value_truth]
    · rename_i undecided
      have same := @join_undecided reader assignment junction clauses (by simpa using undecided)
      split
      · rename_i none
        rw [← same, none, value, Cond.value_truth]
        cases junction <;> rfl
      · rw [← same, value, Cond.value_join]

theorem mem_conds {clauses : List Clause} {condition : Cond} :
    condition ∈ clauses.filterMap cond? ↔ .cond condition ∈ clauses := by
  rw [List.mem_filterMap]
  constructor
  · rintro ⟨clause | flag, member, found⟩
    · cases found
      exact member
    · cases found
  · intro member
    exact ⟨_, member, rfl⟩

theorem join_whole {junction : Junction} {clauses : List Clause}
    (whole : ∀ clause ∈ clauses, clause.Whole reader)
    (steady : junction = .and → 1 < clauses.length → ∀ clause ∈ clauses, clause.Steady reader) :
    (join junction clauses).Whole reader := by
  unfold join
  split
  · exact whole _ (by simp)
  · split
    · exact whole_truth _
    · split
      · exact whole_truth _
      · rename_i some
        refine Cond.join_whole some ?_ ?_
        · intro condition member
          exact whole (.cond condition) (mem_conds.mp member)
        · intro joined several condition member
          have shorter : (clauses.filterMap cond?).length ≤ clauses.length := List.length_filterMap_le ..
          exact steady joined (by omega) (.cond condition) (mem_conds.mp member)

theorem join_steady {junction : Junction} {clauses : List Clause}
    (steady : ∀ clause ∈ clauses, clause.Steady reader) : (join junction clauses).Steady reader := by
  unfold join
  split
  · exact steady _ (by simp)
  · split
    · exact steady_truth _
    · split
      · exact steady_truth _
      · apply Cond.join_steady
        intro condition member
        exact steady (.cond condition) (mem_conds.mp member)

/-- The value of a `WHERE` clause; a row without one is taken. -/
def filterValue (reader : Reader) (assignment : Assignment) (filter : Option Cond) : Truth :=
  (filter.map (Cond.value reader assignment)).getD .yes

theorem value_filter (base : Option Cond) (clause : Option Clause) :
    filterValue reader assignment (filter? base clause) = .yes ↔
      filterValue reader assignment base = .yes ∧ (clause.map (value reader assignment)).getD .yes = .yes := by
  match base, clause with
  | base, none => simp [filter?]
  | none, some (.cond condition) => simp [filter?, Cond.clause?, filterValue, value]
  | some first, some (.cond condition) => simp [filter?, Cond.clause?, filterValue, value, Truth.combine, Truth.neutral]
  | none, some (.settled true) => simp [filter?, filterValue, value]
  | some first, some (.settled true) => simp [filter?, filterValue, value, Truth.ofBool]
  | base, some (.settled false) => simp [filter?, filterValue, value, Truth.ofBool]

theorem filter_whole {base : Option Cond} {clause : Option Clause}
    (before : ∀ condition ∈ base, condition.Whole reader ∧ condition.Steady reader)
    (added : ∀ found ∈ clause, found.Whole reader ∧ (base.isSome → found.Steady reader)) :
    ∀ condition ∈ filter? base clause, condition.Whole reader := by
  have truth (flag : Bool) : (Cond.atom (.truth flag)).Whole reader := whole_truth flag
  match base, clause with
  | base, none => exact fun condition member => (before condition member).1
  | none, some (.cond condition) =>
    intro _ found
    cases found
    exact (added _ rfl).1
  | some first, some (.cond condition) =>
    have left := before first rfl
    have right := added _ rfl
    intro _ found
    cases found
    rw [Cond.whole_joined]
    refine ⟨by simp, ?_⟩
    simpa using ⟨⟨left.1.shield .and, left.2⟩, right.1.shield .and, right.2 rfl⟩
  | none, some (.settled true) => simpa [filter?] using truth true
  | some first, some (.settled true) => simpa [filter?] using (before first rfl).1
  | base, some (.settled false) => simpa [filter?] using truth false

end Clause

end DataGrid.Sql

namespace DataGrid.Store

open Sql

variable {reader : Reader} {assignment : Assignment}

section Alternatives
variable {α : Type}

theorem alternatives_cons (junction : Junction) (item : α) (rest : List (Junction × α)) :
    ∃ first others, alternatives ((junction, item) :: rest) = first :: others := by
  unfold alternatives
  split <;> exact ⟨_, _, rfl⟩

theorem alternatives_and (junction : Junction) {item next : α} {rest : List (Junction × α)} {first others}
    (cut : alternatives ((.and, next) :: rest) = first :: others) :
    alternatives ((junction, item) :: (.and, next) :: rest) = (item :: first) :: others := by
  rw [alternatives.eq_def]
  simp only [cut]

theorem alternatives_or (junction : Junction) (item next : α) (rest : List (Junction × α)) :
    alternatives ((junction, item) :: (.or, next) :: rest) = [item] :: alternatives ((.or, next) :: rest) := by
  rw [alternatives.eq_def]

theorem alternatives_eq_nil {items : List (Junction × α)} : alternatives items = [] ↔ items = [] := by
  cases items with
  | nil => simp [alternatives]
  | cons head rest =>
    obtain ⟨first, others, cut⟩ := alternatives_cons head.1 head.2 rest
    simp [cut]

/-- Nothing is lost and nothing changes its place when a list is cut. -/
theorem alternatives_flatten (items : List (Junction × α)) : (alternatives items).flatten = items.map Prod.snd := by
  induction items with
  | nil => rfl
  | cons head rest ih =>
    match rest with
    | [] => rfl
    | (.and, next) :: more =>
      obtain ⟨first, others, cut⟩ := alternatives_cons .and next more
      rw [alternatives_and head.1 cut, List.map_cons, ← ih, cut]
      rfl
    | (.or, next) :: more =>
      rw [alternatives_or, List.flatten_cons, ih]
      rfl

theorem mem_alternatives {items : List (Junction × α)} {chunk : List α} {item : α}
    (chosen : chunk ∈ alternatives items) (member : item ∈ chunk) : ∃ junction, (junction, item) ∈ items := by
  have among : item ∈ items.map Prod.snd := by
    rw [← alternatives_flatten]
    exact List.mem_flatten_of_mem chosen member
  obtain ⟨⟨junction, _⟩, found, rfl⟩ := List.mem_map.mp among
  exact ⟨junction, found⟩

private theorem foldFrom_alternatives (worth : α → Truth) (rest : List (Junction × α)) :
    ∀ (junction : Junction) (item : α) (before current : Truth) (first : List α) (others : List (List α)),
      alternatives ((junction, item) :: rest) = first :: others →
      Truth.foldFrom before (current.and (worth item)) (rest.map fun entry => (entry.1, worth entry.2)) =
        before.or ((current.and (.join .and (first.map worth))).or
          (.join .or (others.map fun chunk => .join .and (chunk.map worth)))) := by
  induction rest with
  | nil =>
    intro junction item before current first others cut
    cases cut
    simp [Truth.foldFrom, Truth.combine, Truth.neutral, alternatives]
  | cons head rest ih =>
    intro junction item before current first others cut
    obtain ⟨word, next⟩ := head
    cases word with
    | and =>
      obtain ⟨first', others', tail⟩ := alternatives_cons .and next rest
      rw [alternatives_and junction tail] at cut
      cases cut
      have step := ih .and next before (current.and (worth item)) _ _ tail
      simpa [Truth.foldFrom, Truth.combine, Truth.and_assoc] using step
    | or =>
      obtain ⟨first', others', tail⟩ := alternatives_cons .or next rest
      rw [alternatives_or, tail] at cut
      cases cut
      have step := ih .or next (before.or (current.and (worth item))) .yes _ _ tail
      simpa [Truth.foldFrom, Truth.combine, Truth.neutral, Truth.or_assoc] using step

theorem fold_alternatives (worth : α → Truth) (items : List (Junction × α)) :
    Truth.fold (items.map fun entry => (entry.1, worth entry.2)) =
      if items = [] then none
      else some (.join .or ((alternatives items).map fun chunk => .join .and (chunk.map worth))) := by
  match items with
  | [] => rfl
  | (junction, item) :: rest =>
    obtain ⟨first, others, cut⟩ := alternatives_cons junction item rest
    have read := foldFrom_alternatives worth rest junction item .no .yes first others cut
    simpa [Truth.fold, cut, Truth.combine] using read

end Alternatives

/-- The clause of a list is worth its reference reading. -/
theorem value_fold (clauses : List (Junction × Clause)) :
    (fold clauses).map (Clause.value reader assignment) =
      Truth.fold (clauses.map fun entry => (entry.1, entry.2.value reader assignment)) := by
  rw [fold_alternatives]
  unfold fold
  split
  · rename_i none
    rw [if_pos (alternatives_eq_nil.mp none), Option.map_none]
  · rename_i some
    rw [if_neg fun none => some (alternatives_eq_nil.mpr none), Option.map_some, Clause.value_join]
    simp only [List.map_map, Function.comp_def, Clause.value_join]

theorem fold_eq_none {clauses : List (Junction × Clause)} : fold clauses = none ↔ clauses = [] := by
  unfold fold
  split
  · rename_i none
    simp [alternatives_eq_nil.mp none]
  · rename_i some
    simpa using fun none => some (alternatives_eq_nil.mpr none)

theorem fold_whole {clauses : List (Junction × Clause)} {clause : Clause} (found : fold clauses = some clause)
    (whole : ∀ entry ∈ clauses, entry.2.Whole reader)
    (steady : ∀ chunk ∈ alternatives clauses, 1 < chunk.length → ∀ term ∈ chunk, term.Steady reader) :
    clause.Whole reader := by
  unfold fold at found
  split at found
  · cases found
  · cases found
    refine Clause.join_whole ?_ (by simp)
    intro joined member
    obtain ⟨chunk, chosen, rfl⟩ := List.mem_map.mp member
    refine Clause.join_whole ?_ fun _ several => steady chunk chosen several
    intro term among
    obtain ⟨junction, present⟩ := mem_alternatives chosen among
    exact whole _ present

theorem fold_steady {clauses : List (Junction × Clause)} {clause : Clause} (found : fold clauses = some clause)
    (steady : ∀ entry ∈ clauses, entry.2.Steady reader) : clause.Steady reader := by
  unfold fold at found
  split at found
  · cases found
  · cases found
    apply Clause.join_steady
    intro joined member
    obtain ⟨chunk, chosen, rfl⟩ := List.mem_map.mp member
    apply Clause.join_steady
    intro term among
    obtain ⟨junction, present⟩ := mem_alternatives chosen among
    exact steady _ present

end DataGrid.Store
