import DataGrid.Proofs.ActionSteps
import DataGrid.Proofs.GroupUnfolding

/-! Reading a group of the store is reading its tree. It fails only for a tree that is nested too deep, or
for one with a nested group that comes to a truth value; what is read without failure has a tree. -/

namespace DataGrid

open Sql

theorem Sql.Clause.join_settled {junction : Junction} {clauses : List Clause} {flag : Bool}
    (found : Clause.join junction clauses = .settled flag) : clauses = [.settled flag] := by
  unfold Clause.join at found
  split at found
  · rw [found]
  · split at found
    · cases found
    · split at found <;> cases found

theorem Store.fold_settled {clauses : List (Junction × Clause)} {flag : Bool}
    (found : Store.fold clauses = some (.settled flag)) : ∃ junction, (junction, .settled flag) ∈ clauses := by
  unfold Store.fold at found
  split at found
  · cases found
  · have chunks := Clause.join_settled (Option.some.inj found)
    obtain ⟨chunk, chosen, joined⟩ := List.mem_map.mp (chunks ▸ List.mem_singleton_self _)
    have single := Clause.join_settled joined
    exact Store.mem_alternatives chosen (single ▸ List.mem_singleton_self _)

mutual

theorem PredicateTree.Each.cond {holds : Cond → Prop} {tree : PredicateTree} (each : tree.Each holds) :
    ∀ clause ∈ tree.clause?, ∃ condition, clause = .cond condition := by
  match tree with
  | .cond condition =>
    intro _ found
    cases found
    exact ⟨condition, rfl⟩
  | .settled flag => exact each.elim
  | .group entries =>
    intro clause found
    obtain ⟨inner, folded, rfl⟩ := Option.map_eq_some_iff.mp found
    cases inner with
    | cond condition => exact ⟨_, rfl⟩
    | settled flag =>
      obtain ⟨junction, member⟩ := Store.fold_settled folded
      obtain ⟨condition, same⟩ := Forest.Each.conds (show Forest.Each holds entries from each) _ member
      cases same

theorem Forest.Each.conds {holds : Cond → Prop} {forest : Forest} (each : forest.Each holds) :
    ∀ entry ∈ forest.clauses, ∃ condition, entry.2 = .cond condition := by
  match forest with
  | [] => simp [Forest.clauses]
  | (junction, tree) :: rest =>
    intro entry member
    rw [Forest.clauses, List.mem_append] at member
    rcases member with own | later
    · obtain ⟨clause, found, rfl⟩ := Option.map_eq_some_iff.mp (Option.mem_toList.mp own)
      exact PredicateTree.Each.cond each.1 clause found
    · exact Forest.Each.conds each.2 entry later

end

theorem Forest.Each.cond {holds : Cond → Prop} {forest : Forest} (each : forest.Each holds) :
    ∀ clause ∈ forest.clause?, ∃ condition, clause = .cond condition := by
  intro clause found
  cases clause with
  | cond condition => exact ⟨condition, rfl⟩
  | settled flag =>
    obtain ⟨junction, member⟩ := Store.fold_settled found
    obtain ⟨condition, same⟩ := each.conds _ member
    cases same

/-- What reading can come to: the expected result, or one of two failures with its reason. -/
def Outcome {α : Type} (result : Except Error α) (expected : α) (deep settled : Prop) : Prop :=
  result = .ok expected ∨ (result = .error .tooDeep ∧ deep) ∨ (result = .error .noSuchMember ∧ settled)

theorem Outcome.weaken {α : Type} {result : Except Error α} {expected : α} {deep settled deeper unsettled : Prop}
    (outcome : Outcome result expected deep settled) (first : deep → deeper) (second : settled → unsettled) :
    Outcome result expected deeper unsettled := by
  rcases outcome with done | ⟨failed, reason⟩ | ⟨failed, reason⟩
  · exact .inl done
  · exact .inr (.inl ⟨failed, first reason⟩)
  · exact .inr (.inr ⟨failed, second reason⟩)

theorem Outcome.value {α : Type} {result : Except Error α} {expected found : α} {deep settled : Prop}
    (outcome : Outcome result expected deep settled) (done : result = .ok found) : found = expected := by
  rcases outcome with same | ⟨failed, _⟩ | ⟨failed, _⟩
  · exact Except.ok.inj (done.symm.trans same)
  · rw [done] at failed
    cases failed
  · rw [done] at failed
    cases failed

namespace Store

variable {store : Store} {region : GroupId → Prop}

section Empty

private def emptyEntry (store : Store) (depth : Nat) : Junction × Entry → Except Error Bool
  | (_, .cond _) | (_, .settled _) => .ok false
  | (_, .group inner) => store.emptyWithin depth inner

private theorem emptyWithin_succ (store : Store) (depth : Nat) (id : GroupId) :
    store.emptyWithin (depth + 1) id = (store.entries id).allM (store.emptyEntry depth) := by
  rw [emptyWithin]
  congr 1
  funext ⟨junction, entry⟩
  cases entry <;> rfl

mutual

theorem Unfolds.emptyWithin {id : GroupId} {forest : Forest} (unfolds : Unfolds store region id forest)
    (depth : Nat) : Outcome (store.emptyWithin depth id) forest.hollow (depth < forest.height) False := by
  match unfolds, depth with
  | .intro _ _, 0 => exact .inr (.inl ⟨rfl, forest.height_pos⟩)
  | .intro _ entries, depth + 1 =>
    rw [emptyWithin_succ]
    exact Shows.emptyWithin entries depth
termination_by structural unfolds

theorem Shows.emptyWithin {entries : List (Junction × Entry)} {forest : Forest}
    (shows' : Shows store region entries forest) (depth : Nat) :
    Outcome (entries.allM (store.emptyEntry depth)) forest.hollow (depth + 1 < forest.height) False := by
  match shows' with
  | .nil => exact .inl rfl
  | .cond .. | .settled .. => exact .inl rfl
  | @Shows.group _ _ junction _ inner _ _ held rest =>
    have first := Unfolds.emptyWithin held depth
    have others := Shows.emptyWithin rest depth
    rw [List.allM, Forest.hollow, Forest.height, PredicateTree.hollow, PredicateTree.height, emptyEntry]
    rcases first with done | ⟨failed, deep⟩ | ⟨_, impossible⟩
    · rw [done]
      cases inner.hollow with
      | true => exact others.weaken (fun _ => by omega) id
      | false => exact .inl rfl
    · rw [failed]
      exact .inr (.inl ⟨rfl, by omega⟩)
    · exact impossible.elim
termination_by structural shows'

end

theorem Unfolds.isEmpty {id : GroupId} {forest : Forest} (unfolds : Unfolds store region id forest) :
    Outcome (store.isEmpty id) forest.hollow (store.depth 3 < forest.height) False :=
  unfolds.emptyWithin _

end Empty

section Clause

private def clauseEntry (store : Store) (depth : Nat) (entry : Junction × Entry) :
    Except Error (Option (Junction × Clause)) :=
  (store.entryClause (store.clauseWithin depth) entry.2).map (Option.map (entry.1, ·))

private theorem clauseWithin_succ (store : Store) (depth : Nat) (id : GroupId) :
    store.clauseWithin (depth + 1) id =
      (((store.entries id).mapM (store.clauseEntry depth)).map (List.filterMap fun clause => clause)).map fold := by
  have same : store.clauseEntry depth = fun entry => do
      return (← store.entryClause (store.clauseWithin depth) entry.2).map fun clause => (entry.1, clause) := by
    funext entry
    rw [clauseEntry]
    cases store.entryClause (store.clauseWithin depth) entry.2 <;> rfl
  rw [clauseWithin, same]
  cases (store.entries id).mapM (m := Except Error) _ <;> rfl

private theorem Outcome.cons {head : Except Error (Option (Junction × Clause))}
    {tail : Except Error (List (Option (Junction × Clause)))} {first : Option (Junction × Clause)}
    {rest : List (Junction × Clause)} {deep settled : Prop} (one : Outcome head first deep settled)
    (others : Outcome (tail.map (List.filterMap fun clause => clause)) rest deep settled) :
    Outcome ((do return (← head) :: (← tail)).map (List.filterMap fun clause => clause)) (first.toList ++ rest)
      deep settled := by
  rcases one with rfl | ⟨rfl, reason⟩ | ⟨rfl, reason⟩
  · cases tail with
    | error failure => exact others.imp (fun done => by cases done) id
    | ok list =>
      have same : list.filterMap (fun clause => clause) = rest := others.value rfl
      refine .inl ?_
      cases first <;> simp [← same, Except.map, bind, Except.bind, pure, Except.pure]
  · exact .inr (.inl ⟨rfl, reason⟩)
  · exact .inr (.inr ⟨rfl, reason⟩)

private theorem entryClause_group {depth : Nat} {id : GroupId} {inner : Forest}
    (held : Unfolds store region id inner)
    (read : Outcome (store.clauseWithin depth id) inner.clause? (min depth (store.depth 3) < inner.height)
      (¬ inner.Each fun _ => True)) :
    Outcome (store.entryClause (store.clauseWithin depth) (.group id)) (PredicateTree.group inner).clause?
      (min depth (store.depth 3) < inner.height) (¬ inner.Each fun _ => True) := by
  rw [entryClause]
  rcases held.isEmpty with empty | ⟨failed, deep⟩ | ⟨_, impossible⟩
  · rw [empty]
    cases hollow : inner.hollow with
    | true =>
      refine .inl ?_
      rw [(PredicateTree.clause_eq_none (.group inner)).mpr hollow]
      rfl
    | false =>
      rcases read with done | ⟨failed, reason⟩ | ⟨failed, reason⟩
      · rw [done]
        have same : (PredicateTree.group inner).clause? = inner.clause?.map Clause.enclosed := rfl
        rw [same]
        cases found : inner.clause? with
        | none => exact .inl rfl
        | some clause =>
          cases clause with
          | cond condition => exact .inl rfl
          | settled flag =>
            refine .inr (.inr ⟨rfl, ?_⟩)
            intro each
            obtain ⟨condition, same⟩ := each.cond _ found
            cases same
      · rw [failed]
        exact .inr (.inl ⟨rfl, reason⟩)
      · rw [failed]
        exact .inr (.inr ⟨rfl, reason⟩)
  · rw [failed]
    exact .inr (.inl ⟨rfl, by omega⟩)
  · exact impossible.elim

mutual

/-- Reading a group gives the clause of its tree. -/
theorem Unfolds.clauseWithin {id : GroupId} {forest : Forest} (unfolds : Unfolds store region id forest)
    (depth : Nat) :
    Outcome (store.clauseWithin depth id) forest.clause? (min depth (store.depth 3) < forest.height)
      (¬ forest.Each fun _ => True) := by
  match unfolds, depth with
  | .intro _ _, 0 =>
    have positive := forest.height_pos
    exact .inr (.inl ⟨rfl, by omega⟩)
  | .intro _ entries, depth + 1 =>
    rw [clauseWithin_succ]
    rcases Shows.clauses entries depth with done | ⟨failed, deep⟩ | ⟨failed, settled⟩
    · rw [done]
      exact .inl rfl
    · rw [failed]
      exact .inr (.inl ⟨rfl, by omega⟩)
    · rw [failed]
      exact .inr (.inr ⟨rfl, settled⟩)
termination_by structural unfolds

theorem Shows.clauses {entries : List (Junction × Entry)} {forest : Forest}
    (shows' : Shows store region entries forest) (depth : Nat) :
    Outcome ((entries.mapM (store.clauseEntry depth)).map (List.filterMap fun clause => clause)) forest.clauses
      (min depth (store.depth 3) + 1 < forest.height) (¬ forest.Each fun _ => True) := by
  match shows' with
  | .nil => exact .inl rfl
  | .cond junction condition rest =>
    have others := Shows.clauses rest depth
    rw [List.mapM_cons, Forest.clauses]
    refine Outcome.cons (.inl rfl) (others.weaken ?_ ?_)
    · intro deep
      rw [Forest.height]
      omega
    · exact fun settled each => settled each.2
  | .settled junction flag rest =>
    have others := Shows.clauses rest depth
    rw [List.mapM_cons, Forest.clauses]
    refine Outcome.cons (.inl rfl) (others.weaken ?_ ?_)
    · intro deep
      rw [Forest.height]
      omega
    · exact fun settled each => settled each.2
  | @Shows.group _ _ junction id inner _ _ held rest =>
    have others := Shows.clauses rest depth
    have first := entryClause_group held (Unfolds.clauseWithin held depth)
    have own : Outcome (store.clauseEntry depth (junction, .group id))
        ((PredicateTree.group inner).clause?.map (junction, ·)) (min depth (store.depth 3) < inner.height)
        (¬ inner.Each fun _ => True) := by
      rw [clauseEntry]
      rcases first with done | ⟨failed, reason⟩ | ⟨failed, reason⟩
      · rw [done]
        exact .inl rfl
      · rw [failed]
        exact .inr (.inl ⟨rfl, reason⟩)
      · rw [failed]
        exact .inr (.inr ⟨rfl, reason⟩)
    rw [List.mapM_cons, Forest.clauses]
    refine Outcome.cons (own.weaken ?_ ?_) (others.weaken ?_ ?_)
    · intro deep
      rw [Forest.height, PredicateTree.height]
      omega
    · exact fun settled each => settled each.1
    · intro deep
      rw [Forest.height]
      omega
    · exact fun settled each => settled each.2
termination_by structural shows'

end

theorem Unfolds.clause {id : GroupId} {forest : Forest} (unfolds : Unfolds store region id forest) :
    Outcome (store.clause? id) forest.clause? (min (store.depth 1) (store.depth 3) < forest.height)
      (¬ forest.Each fun _ => True) :=
  unfolds.clauseWithin _

end Clause

section Existence

theorem shows_of_groups {entries : List (Junction × Entry)}
    (each : ∀ junction inner, (junction, Entry.group inner) ∈ entries →
      ∃ forest, Unfolds store region inner forest) :
    ∃ forest, Shows store region entries forest := by
  induction entries with
  | nil => exact ⟨[], .nil⟩
  | cons head rest ih =>
    obtain ⟨others, shown⟩ := ih fun junction inner member => each junction inner (.tail _ member)
    match head with
    | (junction, .cond condition) => exact ⟨_, .cond junction condition shown⟩
    | (junction, .settled flag) => exact ⟨_, .settled junction flag shown⟩
    | (junction, .group inner) =>
      obtain ⟨forest, held⟩ := each junction inner (by simp)
      exact ⟨_, .group junction held shown⟩

private theorem allM_each {α : Type} {test : α → Except Error Bool} {items : List α}
    (passed : items.allM test = .ok true) : ∀ item ∈ items, test item = .ok true := by
  induction items with
  | nil => simp
  | cons head rest ih =>
    rw [List.allM] at passed
    cases first : test head with
    | error failure =>
      rw [first] at passed
      cases passed
    | ok flag =>
      rw [first] at passed
      cases flag with
      | false => cases passed
      | true => exact List.forall_mem_cons.mpr ⟨first, ih passed⟩

private theorem emptyWithin_unfolds {depth : Nat} {id : GroupId} (read : store.emptyWithin depth id = .ok true) :
    ∃ forest, Unfolds store (fun _ => True) id forest := by
  induction depth generalizing id with
  | zero => cases read
  | succ depth ih =>
    rw [emptyWithin_succ] at read
    obtain ⟨forest, shown⟩ := shows_of_groups fun junction inner member => ih (allM_each read _ member)
    exact ⟨forest, .intro trivial shown⟩

private theorem clauseWithin_unfolds {depth : Nat} {id : GroupId} {clause : Option Clause}
    (read : store.clauseWithin depth id = .ok clause) : ∃ forest, Unfolds store (fun _ => True) id forest := by
  induction depth generalizing id clause with
  | zero => cases read
  | succ depth ih =>
    have inner (junction : Junction) (inner : GroupId) (member : (junction, Entry.group inner) ∈ store.entries id) :
        ∃ forest, Unfolds store (fun _ => True) inner forest := by
      rw [clauseWithin_succ] at read
      cases list : (store.entries id).mapM (store.clauseEntry depth) with
      | error failure =>
        rw [list] at read
        cases read
      | ok clauses =>
        obtain ⟨result, done⟩ := Except.mapM_each list _ member
        rw [clauseEntry, entryClause] at done
        cases empty : store.isEmpty inner with
        | error failure =>
          rw [empty] at done
          cases done
        | ok flag =>
          cases flag with
          | true => exact emptyWithin_unfolds empty
          | false =>
            cases clause : store.clauseWithin depth inner with
            | error failure =>
              rw [empty, clause] at done
              cases done
            | ok found => exact ih clause
    obtain ⟨forest, shown⟩ := shows_of_groups inner
    exact ⟨forest, .intro trivial shown⟩

/-- A group that can be read has a tree. -/
theorem clause_unfolds {id : GroupId} {clause : Option Clause} (read : store.clause? id = .ok clause) :
    ∃ forest, Unfolds store (fun _ => True) id forest ∧ clause = forest.clause? := by
  obtain ⟨forest, unfolds⟩ := clauseWithin_unfolds read
  exact ⟨forest, unfolds, unfolds.clause.value read⟩

end Existence

end Store

end DataGrid
