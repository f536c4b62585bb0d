import DataGrid.Query
import DataGrid.Proofs.ActionSteps
import DataGrid.Proofs.GroupClause
import DataGrid.Proofs.MethodConditions
import DataGrid.Proofs.StoreGrowth

/-! Which rows a statement returns. The condition of a query is that of its base and that of its root group;
where no raw text comes apart, a row is returned when both hold. -/

namespace DataGrid

open Sql

/-- Whether a row passes a `WHERE` clause: the clause reads as true, or there is none. -/
def Accepts (reader : Reader) (assignment : Assignment) (filter : Option Cond) : Prop :=
  ∀ condition ∈ filter, Reads assignment.value .disjunction (condition.tokens reader) .yes

variable {reader : Reader} {assignment : Assignment}

theorem accepts_iff {filter : Option Cond} (whole : ∀ condition ∈ filter, condition.Whole reader) :
    Accepts reader assignment filter ↔ Clause.filterValue reader assignment filter = .yes := by
  cases filter with
  | none => simp [Accepts, Clause.filterValue]
  | some condition =>
    have reads := ((whole condition rfl).reads assignment).1
    simp only [Accepts, Clause.filterValue, Option.map_some, Option.getD_some]
    constructor
    · exact fun accepted => reads.unique _ (accepted condition rfl)
    · rintro true_ _ ⟨⟩
      rwa [true_] at reads

/-- Whether a group lets a row pass; one that holds nothing does. -/
def Forest.Passes (forest : Forest) (reader : Reader) (assignment : Assignment) : Prop :=
  (forest.value? reader assignment).getD .yes = .yes

/-- A base condition and a group of conditions that are kept apart accept the rows that both let pass. -/
theorem Forest.accepts {base : Option Cond} {forest : Forest} (safe : ∀ condition ∈ base, condition.Safe reader)
    (guarded : forest.Guarded reader) (steady : base.isSome → ∀ clause ∈ forest.clause?, clause.Steady reader) :
    Accepts reader assignment (Clause.filter? base forest.clause?) ↔
      Accepts reader assignment base ∧ forest.Passes reader assignment := by
  have whole : ∀ condition ∈ Clause.filter? base forest.clause?, condition.Whole reader := by
    apply Clause.filter_whole safe
    intro clause found
    exact ⟨guarded.whole clause found, fun present => steady present clause found⟩
  rw [accepts_iff whole, accepts_iff fun condition member => (safe condition member).1, Clause.value_filter,
    Forest.Passes, forest.value_clause]

namespace Query

structure Formed (query : Query) : Prop where
  closed : query.store.Closed
  root : query.root < query.store.size

theorem formed_ofSelect (base : Select) (dialect : Dialect) (oracle : Bool) :
    (ofSelect base dialect oracle).Formed where
  closed := by
    apply Store.Closed.fresh
    intro id junction inner member
    cases member
  root := Nat.one_pos

variable {query : Query} {filter : Option Cond}

theorem condition_unfolds (read : query.condition = .ok filter) :
    ∃ forest, query.store.Unfolds (fun _ => True) query.root forest ∧
      filter = Clause.filter? query.base.filter forest.clause? := by
  obtain ⟨clause, found, same⟩ := Except.bind_ok read
  cases same
  obtain ⟨forest, unfolds, rfl⟩ := Store.clause_unfolds found
  exact ⟨forest, unfolds, rfl⟩

theorem condition_eq {forest : Forest} {region : GroupId → Prop} (read : query.condition = .ok filter)
    (unfolds : query.store.Unfolds region query.root forest) :
    filter = Clause.filter? query.base.filter forest.clause? := by
  obtain ⟨other, found, same⟩ := condition_unfolds read
  rw [same, found.unique unfolds]

end Query

end DataGrid
