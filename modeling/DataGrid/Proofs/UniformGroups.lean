import DataGrid.Proofs.HandleCondition

/-! Groups whose entries are all joined by the same word. One joined by `and` lets a row pass when each of
its entries does; one joined by `or`, when one of them does, and it keeps its entries apart by itself. -/

namespace DataGrid

open Sql

/-- Whether one word stands before every entry. -/
def Uniform {α : Type} (junction : Junction) (entries : List (Junction × α)) : Prop :=
  ∀ entry ∈ entries, entry.1 = junction

theorem Uniform.tail {α : Type} {junction : Junction} {head : Junction × α} {rest : List (Junction × α)}
    (uniform : Uniform junction (head :: rest)) : Uniform junction rest :=
  fun entry member => uniform entry (.tail _ member)

theorem Uniform.append {α : Type} {junction : Junction} {first second : List (Junction × α)}
    (one : Uniform junction first) (other : Uniform junction second) : Uniform junction (first ++ second) := by
  intro entry member
  rcases List.mem_append.mp member with before | after
  · exact one entry before
  · exact other entry after

theorem uniform_map {α β : Type} (junction : Junction) (f : β → α) (items : List β) :
    Uniform junction (items.map fun item => (junction, f item)) := by
  intro entry member
  obtain ⟨item, _, rfl⟩ := List.mem_map.mp member
  rfl

namespace Sql.Truth

private theorem foldFrom_and {values : List (Junction × Truth)} (uniform : Uniform .and values)
    (before current : Truth) :
    foldFrom before current values = before.or (current.and (join .and (values.map Prod.snd))) := by
  induction values generalizing current with
  | nil => simp [foldFrom, neutral]
  | cons head rest ih =>
    obtain ⟨junction, value⟩ := head
    have same : junction = .and := uniform _ (.head _)
    rw [same, foldFrom, ih uniform.tail, and_assoc]
    rfl

private theorem foldFrom_or {values : List (Junction × Truth)} (uniform : Uniform .or values)
    (before current : Truth) :
    foldFrom before current values = before.or (current.or (join .or (values.map Prod.snd))) := by
  induction values generalizing before current with
  | nil => simp [foldFrom, neutral]
  | cons head rest ih =>
    obtain ⟨junction, value⟩ := head
    have same : junction = .or := uniform _ (.head _)
    rw [same, foldFrom, ih uniform.tail, or_assoc]
    rfl

/-- A list with one word throughout is worth the junction of its values. -/
theorem fold_uniform {junction : Junction} {values : List (Junction × Truth)} (uniform : Uniform junction values) :
    fold values = if values = [] then none else some (join junction (values.map Prod.snd)) := by
  match values with
  | [] => rfl
  | (word, value) :: rest =>
    have others := uniform.tail
    cases junction with
    | and => simp [fold, foldFrom_and others, combine]
    | or => simp [fold, foldFrom_or others, combine]

end Sql.Truth

theorem Store.alternatives_or_uniform {α : Type} {entries : List (Junction × α)} (uniform : Uniform .or entries) :
    Store.alternatives entries = entries.map fun entry => [entry.2] := by
  induction entries with
  | nil => rfl
  | cons head rest ih =>
    match rest with
    | [] => rfl
    | (junction, next) :: more =>
      have same : junction = .or := uniform (junction, next) (by simp)
      subst same
      rw [Store.alternatives_or, ih uniform.tail]
      rfl

namespace Forest

variable {reader : Reader} {assignment : Assignment} {forest : Forest}

theorem mem_values {junction : Junction} {value : Truth} :
    (junction, value) ∈ forest.values reader assignment ↔
      ∃ tree, (junction, tree) ∈ forest ∧ tree.value? reader assignment = some value := by
  induction forest with
  | nil => simp [values]
  | cons head rest ih =>
    obtain ⟨word, tree⟩ := head
    rw [values, List.mem_append, ih]
    simp only [Option.mem_toList, Option.map_eq_some_iff, Prod.mk.injEq, List.mem_cons]
    constructor
    · rintro (⟨_, found, rfl, rfl⟩ | ⟨other, member, found⟩)
      · exact ⟨tree, .inl ⟨rfl, rfl⟩, found⟩
      · exact ⟨other, .inr member, found⟩
    · rintro ⟨other, ⟨rfl, rfl⟩ | member, found⟩
      · exact .inl ⟨value, found, rfl, rfl⟩
      · exact .inr ⟨other, member, found⟩

theorem mem_clauses {junction : Junction} {clause : Clause} :
    (junction, clause) ∈ forest.clauses ↔ ∃ tree, (junction, tree) ∈ forest ∧ tree.clause? = some clause := by
  induction forest with
  | nil => simp [clauses]
  | cons head rest ih =>
    obtain ⟨word, tree⟩ := head
    rw [clauses, List.mem_append, ih]
    simp only [Option.mem_toList, Option.map_eq_some_iff, Prod.mk.injEq, List.mem_cons]
    constructor
    · rintro (⟨_, found, rfl, rfl⟩ | ⟨other, member, found⟩)
      · exact ⟨tree, .inl ⟨rfl, rfl⟩, found⟩
      · exact ⟨other, .inr member, found⟩
    · rintro ⟨other, ⟨rfl, rfl⟩ | member, found⟩
      · exact .inl ⟨clause, found, rfl, rfl⟩
      · exact .inr ⟨other, member, found⟩

private theorem values_uniform {junction : Junction} (uniform : Uniform junction forest) :
    Uniform junction (forest.values reader assignment) := by
  rintro ⟨word, value⟩ member
  obtain ⟨tree, among, _⟩ := mem_values.mp member
  exact uniform _ among

/-- A group joined by `and` lets a row pass when each of its entries that holds something does. -/
theorem passes_and (uniform : Uniform .and forest) :
    forest.Passes reader assignment ↔
      ∀ entry ∈ forest, ∀ value ∈ entry.2.value? reader assignment, value = .yes := by
  have all : forest.Passes reader assignment ↔
      Truth.join .and ((forest.values reader assignment).map Prod.snd) = .yes := by
    rw [Passes, value?, Truth.fold_uniform (values_uniform uniform)]
    split
    · rename_i none
      simp [none, Truth.neutral]
    · rfl
  rw [all, Truth.join_and_eq_yes]
  constructor
  · rintro each ⟨junction, tree⟩ member value found
    exact each value (List.mem_map.mpr ⟨_, mem_values.mpr ⟨tree, member, found⟩, rfl⟩)
  · intro each value member
    obtain ⟨⟨junction, _⟩, among, rfl⟩ := List.mem_map.mp member
    obtain ⟨tree, held, found⟩ := mem_values.mp among
    exact each _ held _ found

theorem hollow_iff : forest.hollow = true ↔ ∀ entry ∈ forest, entry.2.hollow = true := by
  induction forest with
  | nil => simp [hollow]
  | cons head rest ih => rw [hollow, Bool.and_eq_true, ih, List.forall_mem_cons]

private theorem value_or (uniform : Uniform .or forest) {value : Truth}
    (found : forest.value? reader assignment = some value) :
    value = .yes ↔ ∃ entry ∈ forest, entry.2.value? reader assignment = some .yes := by
  rw [value?, Truth.fold_uniform (values_uniform uniform)] at found
  split at found
  · cases found
  · rw [← Option.some.inj found, Truth.join_or_eq_yes, List.mem_map]
    constructor
    · rintro ⟨⟨junction, _⟩, among, rfl⟩
      obtain ⟨tree, held, yes⟩ := mem_values.mp among
      exact ⟨_, held, yes⟩
    · rintro ⟨⟨junction, tree⟩, held, yes⟩
      exact ⟨_, mem_values.mpr ⟨tree, held, yes⟩, rfl⟩

/-- What a group joined by `or` asks for: when one of its entries holds something, one of them is true. -/
theorem alternatives_yes (uniform : Uniform .or forest) :
    (∀ value ∈ (PredicateTree.group forest).value? reader assignment, value = .yes) ↔
      ((∃ entry ∈ forest, entry.2.hollow = false) →
        ∃ entry ∈ forest, entry.2.value? reader assignment = some .yes) := by
  have group : (PredicateTree.group forest).value? reader assignment = forest.value? reader assignment := rfl
  rw [group]
  cases found : forest.value? reader assignment with
  | none =>
    have empty := hollow_iff.mp (value_eq_none.mp found)
    refine ⟨?_, fun _ _ none => by cases none⟩
    rintro _ ⟨entry, member, held⟩
    rw [empty entry member] at held
    cases held
  | some value =>
    have present : ∃ entry ∈ forest, entry.2.hollow = false := by
      by_contra empty
      have hollow : ∀ entry ∈ forest, entry.2.hollow = true := by simpa using empty
      cases found.symm.trans (value_eq_none.mpr (hollow_iff.mpr hollow))
    rw [← value_or uniform found]
    constructor
    · exact fun each _ => each value rfl
    · rintro yes _ ⟨⟩
      exact yes present

theorem guarded_or (uniform : Uniform .or forest) (each : ∀ entry ∈ forest, entry.2.Guarded reader) :
    (PredicateTree.group forest).Guarded reader := by
  refine ⟨allGuarded_iff.mpr each, ?_⟩
  have single : Uniform .or forest.clauses := by
    rintro ⟨word, clause⟩ member
    obtain ⟨tree, held, _⟩ := mem_clauses.mp member
    exact uniform _ held
  intro chunk chosen several
  rw [Store.alternatives_or_uniform single] at chosen
  obtain ⟨entry, _, rfl⟩ := List.mem_map.mp chosen
  exact absurd several (Nat.lt_irrefl 1)

/-- A group whose entries can all stand in a list joined by `and` is kept apart, whatever words join them. -/
theorem guarded_steady (each : ∀ entry ∈ forest, entry.2.Guarded reader)
    (steady : ∀ entry ∈ forest.clauses, entry.2.Steady reader) : forest.Guarded reader := by
  refine ⟨allGuarded_iff.mpr each, ?_⟩
  intro chunk chosen _ term member
  obtain ⟨junction, present⟩ := Store.mem_alternatives chosen member
  exact steady _ present

end Forest

end DataGrid
