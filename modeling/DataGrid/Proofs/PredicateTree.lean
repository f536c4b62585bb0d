import DataGrid.Proofs.PredicateFold

/-! Groups as trees, apart from the store that holds them: which trees hold nothing, the clause that a tree
comes to, and the value that the reference reading gives it. Groups that hold nothing are left out of all
three. -/

namespace DataGrid

open Sql

inductive PredicateTree where
  | cond (condition : Cond)
  | settled (flag : Bool)
  | group (entries : List (Junction × PredicateTree))

/-- What a group holds, each entry with the junction before it. -/
abbrev Forest := List (Junction × PredicateTree)

/-- A clause as an operand: a condition gets parentheses. -/
def Sql.Clause.enclosed : Clause → Clause
  | .cond condition => .cond (.group condition)
  | .settled flag => .settled flag

mutual

def PredicateTree.hollow : PredicateTree → Bool
  | .cond _ | .settled _ => false
  | .group entries => Forest.hollow entries

def Forest.hollow : Forest → Bool
  | [] => true
  | (_, tree) :: rest => tree.hollow && Forest.hollow rest

end

mutual

def PredicateTree.height : PredicateTree → Nat
  | .cond _ | .settled _ => 0
  | .group entries => Forest.height entries

def Forest.height : Forest → Nat
  | [] => 1
  | (_, tree) :: rest => max (tree.height + 1) (Forest.height rest)

end

mutual

def PredicateTree.Each (holds : Cond → Prop) : PredicateTree → Prop
  | .cond condition => holds condition
  | .settled _ => False
  | .group entries => Forest.Each holds entries

def Forest.Each (holds : Cond → Prop) : Forest → Prop
  | [] => True
  | (_, tree) :: rest => tree.Each holds ∧ Forest.Each holds rest

end

mutual

def PredicateTree.clause? : PredicateTree → Option Clause
  | .cond condition => some (.cond condition)
  | .settled flag => some (.settled flag)
  | .group entries => (Store.fold (Forest.clauses entries)).map Clause.enclosed

def Forest.clauses : Forest → List (Junction × Clause)
  | [] => []
  | (junction, tree) :: rest => (tree.clause?.map (junction, ·)).toList ++ Forest.clauses rest

end

def Forest.clause? (forest : Forest) : Option Clause := Store.fold forest.clauses

section Value
variable (reader : Reader) (assignment : Assignment)

mutual

/-- The value of a tree by the reference reading, none when it holds nothing. -/
def PredicateTree.value? : PredicateTree → Option Truth
  | .cond condition => some (condition.value reader assignment)
  | .settled flag => some (.ofBool flag)
  | .group entries => Truth.fold (Forest.values entries)

def Forest.values : Forest → List (Junction × Truth)
  | [] => []
  | (junction, tree) :: rest => (tree.value?.map (junction, ·)).toList ++ Forest.values rest

end

/-- The reference reading of a group: nested groups that hold nothing are dropped, each `or` starts a new
alternative, the first junction does not count, and a nested group is one operand. -/
def Forest.value? (forest : Forest) : Option Truth := Truth.fold (forest.values reader assignment)

end Value

/-- Whether no raw text with an open `or` shares an alternative with another condition. -/
def Apart (reader : Reader) (clauses : List (Junction × Clause)) : Prop :=
  ∀ chunk ∈ Store.alternatives clauses, 1 < chunk.length → ∀ term ∈ chunk, term.Steady reader

mutual

/-- Whether the conditions of a tree are kept apart in each of its groups. -/
def PredicateTree.Guarded (reader : Reader) : PredicateTree → Prop
  | .cond condition => condition.Whole reader
  | .settled _ => True
  | .group entries => Forest.AllGuarded reader entries ∧ Apart reader (Forest.clauses entries)

def Forest.AllGuarded (reader : Reader) : Forest → Prop
  | [] => True
  | (_, tree) :: rest => tree.Guarded reader ∧ Forest.AllGuarded reader rest

end

def Forest.Guarded (reader : Reader) (forest : Forest) : Prop :=
  forest.AllGuarded reader ∧ Apart reader forest.clauses

namespace Forest

theorem clauses_append (first second : Forest) :
    Forest.clauses (first ++ second) = first.clauses ++ second.clauses := by
  induction first with
  | nil => rfl
  | cons entry rest ih => rw [List.cons_append, clauses, clauses, ih, List.append_assoc]

theorem values_append (reader : Reader) (assignment : Assignment) (first second : Forest) :
    Forest.values reader assignment (first ++ second) =
      first.values reader assignment ++ second.values reader assignment := by
  induction first with
  | nil => rfl
  | cons entry rest ih => rw [List.cons_append, values, values, ih, List.append_assoc]

theorem allGuarded_iff {reader : Reader} {forest : Forest} :
    forest.AllGuarded reader ↔ ∀ entry ∈ forest, entry.2.Guarded reader := by
  induction forest with
  | nil => simp [AllGuarded]
  | cons entry rest ih => rw [AllGuarded, ih, List.forall_mem_cons]

theorem height_pos (forest : Forest) : 0 < forest.height := by
  induction forest with
  | nil => exact Nat.one_pos
  | cons entry rest ih =>
    rw [Forest.height]
    omega

theorem height_append (first second : Forest) :
    Forest.height (first ++ second) = max first.height second.height := by
  induction first with
  | nil =>
    have least : 1 ≤ second.height := second.height_pos
    rw [List.nil_append, height]
    omega
  | cons entry rest ih => rw [List.cons_append, height, height, ih, Nat.max_assoc]

theorem Each.append {holds : Cond → Prop} {first second : Forest} (one : first.Each holds)
    (other : second.Each holds) : Forest.Each holds (first ++ second) := by
  induction first with
  | nil => exact other
  | cons entry rest ih => exact ⟨one.1, ih one.2⟩

theorem each_iff {holds : Cond → Prop} {forest : Forest} :
    forest.Each holds ↔ ∀ entry ∈ forest, entry.2.Each holds := by
  induction forest with
  | nil => simp [Each]
  | cons entry rest ih => rw [Each, ih, List.forall_mem_cons]

end Forest

mutual

theorem PredicateTree.Each.weaken {holds wider : Cond → Prop} (implied : ∀ cond, holds cond → wider cond)
    {tree : PredicateTree} (each : tree.Each holds) : tree.Each wider := by
  match tree with
  | .cond condition => exact implied condition each
  | .settled _ => exact each
  | .group entries => exact Forest.Each.weaken implied (show Forest.Each holds entries from each)

theorem Forest.Each.weaken {holds wider : Cond → Prop} (implied : ∀ cond, holds cond → wider cond)
    {forest : Forest} (each : forest.Each holds) : forest.Each wider := by
  match forest with
  | [] => trivial
  | (junction, tree) :: rest =>
    exact ⟨PredicateTree.Each.weaken implied each.1, Forest.Each.weaken implied each.2⟩

end

section Reading
variable {reader : Reader} {assignment : Assignment}

@[simp] theorem Sql.Clause.value_enclosed (clause : Clause) :
    clause.enclosed.value reader assignment = clause.value reader assignment := by
  cases clause with
  | cond condition => exact Cond.value_group condition
  | settled flag => rfl

theorem Sql.Clause.Whole.enclosed {clause : Clause} (whole : clause.Whole reader) : clause.enclosed.Whole reader := by
  cases clause with
  | cond condition => exact whole
  | settled flag => trivial

theorem Sql.Clause.enclosed_steady (clause : Clause) : clause.enclosed.Steady reader := by
  cases clause with
  | cond condition => exact Cond.steady_group condition
  | settled flag => trivial

mutual

theorem PredicateTree.value_clause (tree : PredicateTree) :
    tree.clause?.map (Clause.value reader assignment) = tree.value? reader assignment := by
  match tree with
  | .cond condition => rfl
  | .settled flag => rfl
  | .group entries =>
    have same := Forest.values_clauses entries
    rw [PredicateTree.clause?, PredicateTree.value?, same, ← Store.value_fold, Option.map_map]
    congr 1
    funext clause
    exact clause.value_enclosed

theorem Forest.values_clauses (forest : Forest) :
    forest.values reader assignment =
      forest.clauses.map fun entry => (entry.1, entry.2.value reader assignment) := by
  match forest with
  | [] => rfl
  | (junction, tree) :: rest =>
    have first := PredicateTree.value_clause tree
    have others := Forest.values_clauses rest
    rw [Forest.values, Forest.clauses, List.map_append, others, ← first]
    cases tree.clause? <;> rfl

end

theorem Forest.value_clause (forest : Forest) :
    forest.clause?.map (Clause.value reader assignment) = forest.value? reader assignment := by
  rw [clause?, value?, values_clauses, Store.value_fold]

mutual

/-- A tree comes to nothing exactly when it holds nothing. -/
theorem PredicateTree.clause_eq_none (tree : PredicateTree) : tree.clause? = none ↔ tree.hollow = true := by
  match tree with
  | .cond condition => simp [PredicateTree.clause?, PredicateTree.hollow]
  | .settled flag => simp [PredicateTree.clause?, PredicateTree.hollow]
  | .group entries =>
    rw [PredicateTree.clause?, PredicateTree.hollow, Option.map_eq_none_iff, Store.fold_eq_none]
    exact Forest.clauses_eq_nil entries

theorem Forest.clauses_eq_nil (forest : Forest) : forest.clauses = [] ↔ forest.hollow = true := by
  match forest with
  | [] => simp [Forest.clauses, Forest.hollow]
  | (junction, tree) :: rest =>
    have first := PredicateTree.clause_eq_none tree
    have others := Forest.clauses_eq_nil rest
    rw [Forest.clauses, Forest.hollow, List.append_eq_nil_iff, others, Bool.and_eq_true, ← first]
    simp

end

theorem Forest.clause_eq_none {forest : Forest} : forest.clause? = none ↔ forest.hollow = true := by
  rw [clause?, Store.fold_eq_none, clauses_eq_nil]

theorem Forest.value_eq_none {forest : Forest} : forest.value? reader assignment = none ↔ forest.hollow = true := by
  rw [← value_clause, Option.map_eq_none_iff, clause_eq_none]

mutual

theorem PredicateTree.Guarded.whole {tree : PredicateTree} (guarded : tree.Guarded reader) :
    ∀ clause ∈ tree.clause?, clause.Whole reader := by
  match tree with
  | .cond condition =>
    intro _ found
    cases found
    exact guarded
  | .settled flag =>
    intro _ found
    cases found
    trivial
  | .group entries =>
    intro clause found
    obtain ⟨inner, folded, rfl⟩ := Option.map_eq_some_iff.mp found
    have each := Forest.AllGuarded.whole guarded.1
    exact (Store.fold_whole folded each guarded.2).enclosed

theorem Forest.AllGuarded.whole {forest : Forest} (guarded : forest.AllGuarded reader) :
    ∀ entry ∈ forest.clauses, entry.2.Whole reader := by
  match forest with
  | [] => simp [Forest.clauses]
  | (junction, tree) :: rest =>
    have first := PredicateTree.Guarded.whole guarded.1
    have others := Forest.AllGuarded.whole guarded.2
    intro entry member
    rw [Forest.clauses, List.mem_append] at member
    rcases member with own | later
    · obtain ⟨clause, found, rfl⟩ := Option.map_eq_some_iff.mp (Option.mem_toList.mp own)
      exact first clause found
    · exact others entry later

end

theorem Forest.Guarded.whole {forest : Forest} (guarded : forest.Guarded reader) :
    ∀ clause ∈ forest.clause?, clause.Whole reader :=
  fun _ found => Store.fold_whole found guarded.1.whole guarded.2

/-- The reading of a clause by the grammar is the value of a tree by the reference reading. -/
theorem Forest.Guarded.reads {forest : Forest} {condition : Cond} (guarded : forest.Guarded reader)
    (found : forest.clause? = some (.cond condition)) (assignment : Assignment) (result : Truth) :
    Reads assignment.value .disjunction (condition.tokens reader) result ↔
      forest.value? reader assignment = some result := by
  have reads := (Cond.Whole.reads (guarded.whole _ found) assignment).1
  rw [← forest.value_clause, found, Option.map_some, Option.some_inj]
  constructor
  · exact fun other => reads.unique _ other
  · rintro rfl
    exact reads

end Reading

section Structured
variable {reader : Reader} {holds : Cond → Prop}

mutual

theorem PredicateTree.Each.guarded (safe : ∀ cond, holds cond → cond.Whole reader ∧ cond.Steady reader)
    {tree : PredicateTree} (each : tree.Each holds) :
    tree.Guarded reader ∧ ∀ clause ∈ tree.clause?, clause.Steady reader := by
  match tree with
  | .cond condition =>
    refine ⟨(safe condition each).1, ?_⟩
    intro _ found
    cases found
    exact (safe condition each).2
  | .settled flag => exact each.elim
  | .group entries =>
    have inner := Forest.Each.guarded safe (show Forest.Each holds entries from each)
    refine ⟨⟨inner.1, ?_⟩, ?_⟩
    · intro chunk chosen _ term member
      obtain ⟨junction, present⟩ := Store.mem_alternatives chosen member
      exact inner.2 _ present
    · intro clause found
      obtain ⟨inner, _, rfl⟩ := Option.map_eq_some_iff.mp found
      exact inner.enclosed_steady

theorem Forest.Each.guarded (safe : ∀ cond, holds cond → cond.Whole reader ∧ cond.Steady reader)
    {forest : Forest} (each : forest.Each holds) :
    forest.AllGuarded reader ∧ ∀ entry ∈ forest.clauses, entry.2.Steady reader := by
  match forest with
  | [] => simp [Forest.clauses, Forest.AllGuarded]
  | (junction, tree) :: rest =>
    have first := PredicateTree.Each.guarded safe each.1
    have others := Forest.Each.guarded safe each.2
    refine ⟨⟨first.1, others.1⟩, ?_⟩
    intro entry member
    rw [Forest.clauses, List.mem_append] at member
    rcases member with own | later
    · obtain ⟨clause, found, rfl⟩ := Option.map_eq_some_iff.mp (Option.mem_toList.mp own)
      exact first.2 clause found
    · exact others.2 entry later

end

theorem Forest.Each.steady (safe : ∀ cond, holds cond → cond.Whole reader ∧ cond.Steady reader)
    {forest : Forest} (each : forest.Each holds) : ∀ clause ∈ forest.clause?, clause.Steady reader :=
  fun _ found => Store.fold_steady found (each.guarded safe).2

theorem Forest.Each.apart (safe : ∀ cond, holds cond → cond.Whole reader ∧ cond.Steady reader)
    {forest : Forest} (each : forest.Each holds) : forest.Guarded reader := by
  refine ⟨(each.guarded safe).1, ?_⟩
  intro chunk chosen _ term member
  obtain ⟨junction, present⟩ := Store.mem_alternatives chosen member
  exact (each.guarded safe).2 _ present

end Structured

end DataGrid
