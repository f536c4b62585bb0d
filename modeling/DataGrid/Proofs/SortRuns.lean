import DataGrid.Proofs.CountFrames
import DataGrid.Proofs.SearchSteps
import DataGrid.Proofs.SortTexts

/-! The sort terms of a whole run. The searches and the filter tree leave those of the query alone, and the order of the
rows adds one at most, so what passes add in all are texts that are written with a direction. -/

namespace DataGrid

open Sql

/-- A step that comes through keeps what held before it. -/
def Action.Keeps {σ α : Type} (holds : σ → Prop) (step : Action σ α) : Prop :=
  ∀ before value after, holds before → step before = (.ok value, after) → holds after

theorem Action.Stays.keeps {σ α : Type} {holds : σ → Prop} {step : Action σ α} (stays : Stays holds step) :
    Keeps holds step := fun _ _ _ held ran => stays.after held ran

namespace Action.Keeps

variable {σ τ α β : Type} {holds : σ → Prop}

theorem pure (value : α) : Keeps holds (Pure.pure value) := by
  rintro before _ _ held ⟨⟩
  exact held

theorem bind {first : Action σ α} {next : α → Action σ β} (one : Keeps holds first)
    (steps : ∀ value, Keeps holds (next value)) : Keeps holds (first >>= next) := by
  intro before result after held ran
  obtain ⟨value, middle, start, rest⟩ := Action.bind_ok ran
  exact steps value _ _ _ (one _ _ _ held start) rest

/-- What is done next may go by the state that is read. -/
theorem read {next : σ → Action σ β} (steps : ∀ state, holds state → Keeps holds (next state)) :
    Keeps holds (MonadState.get >>= next) := by
  intro before result after held ran
  obtain ⟨_, _, found, rest⟩ := Action.bind_ok ran
  cases found
  exact steps before held _ _ _ held rest

theorem modify {change : σ → σ} (steps : ∀ state, holds state → holds (change state)) :
    Keeps holds (MonadState.modifyGet fun state => (PUnit.unit, change state) : Action σ PUnit) := by
  rintro before _ _ held ⟨⟩
  exact steps before held

theorem forM {step : α → Action σ PUnit} (items : List α) (steps : ∀ item, Keeps holds (step item)) :
    Keeps holds (items.forM step) := by
  induction items with
  | nil => exact pure _
  | cons head rest ih =>
    rw [List.forM]
    exact (steps head).bind fun _ => ih

/-- What a step on a part keeps may go by the rest. -/
theorem on {get : σ → τ} {set : τ → σ → σ} {step : Action τ α} (inner : σ → τ → Prop)
    (parts : ∀ state, holds state → inner state (get state))
    (whole : ∀ state part, holds state → inner state part → holds (set part state))
    (steps : ∀ state, Keeps (inner state) step) : Keeps holds (Action.on get set step) := by
  intro before value after held ran
  obtain ⟨part, done, rfl⟩ := Action.on_ok ran
  exact whole before part held (steps before _ _ _ (parts _ held) done)

end Action.Keeps

/-- A search with a query that has the adapter and the sort terms of another one. -/
structure Searching.SameSorts (start : Query) (searching : Searching) : Prop where
  adapter : searching.query.adapter = start.adapter
  sorts : searching.query.sorts = start.sorts

namespace Search

variable {start : Query}

/-- A step that keeps all that goes by neither conditions nor joins keeps the sort terms. -/
private theorem keeps_of_stays {step : Action Searching Unit}
    (stays : ∀ holds : Query → Prop, (∀ query store, holds query → holds { query with store := store }) →
      (∀ registry path query column name after, holds query →
        Query.joinPath query registry path column = .ok (name, after) → holds after) →
      Action.Stays (fun searching => holds searching.query) step) : Action.Keeps (Searching.SameSorts start) step := by
  intro before value after same ran
  have kept := stays (fun query => query.adapter = start.adapter ∧ query.sorts = start.sorts) (fun _ _ held => held)
    fun _ _ _ _ _ _ held reached =>
      ⟨(Query.joinPath_alike reached).adapter.trans held.1, (Query.joinPath_sorts reached).trans held.2⟩
  obtain ⟨adapter, sorts⟩ := kept.after ⟨same.adapter, same.sorts⟩ ran
  exact ⟨adapter, sorts⟩

theorem runGlobal_keeps (search : Search) : Action.Keeps (Searching.SameSorts start) search.runGlobal :=
  keeps_of_stays fun _ stored _ => runGlobal_stays stored

theorem runOwn_keeps (search : Search) : Action.Keeps (Searching.SameSorts start) search.runOwn :=
  keeps_of_stays fun _ stored reached => runOwn_stays stored fun path _ => reached search.registry path

end Search

theorem directionWord_eq (descending : Bool) :
    directionWord descending = "asc" ∨ directionWord descending = "desc" := by
  cases descending with
  | false => exact .inl rfl
  | true => exact .inr rfl

namespace Refresh

/-- The settings are those of the start, and so are the sort terms of the query but for texts at their end that are
written with a direction. -/
structure Sorted (start refresh : Refresh) : Prop where
  order : refresh.rowOrder = start.rowOrder
  adapter : refresh.query.adapter = start.query.adapter
  sorts : ∃ added : List String, refresh.query.sorts = start.query.sorts ++ added.map .text ∧
    ∀ sql ∈ added, ∃ name term direction, (direction = "asc" ∨ direction = "desc") ∧
      RowOrder.Writes start.config start.query.adapter name term direction sql

variable {start : Refresh}

theorem Sorted.refl (refresh : Refresh) : Sorted refresh refresh :=
  ⟨rfl, rfl, [], (List.append_nil _).symm, fun _ member => nomatch member⟩

theorem note_keeps (pass : String) : Action.Keeps (Sorted start) (note pass) :=
  (note_stays (fun _ _ sorted => ⟨sorted.order, sorted.adapter, sorted.sorts⟩) pass).keeps

theorem runSearch_keeps {pass : Search → Action Searching Unit}
    (steps : ∀ query search, Action.Keeps (Searching.SameSorts query) (pass search)) :
    Action.Keeps (Sorted start) (runSearch pass) := by
  unfold runSearch
  refine .read fun refresh _ => Action.Keeps.bind ?_ fun applied => .modify ?_
  · refine .on (fun refresh => Searching.SameSorts refresh.query) ?_ ?_ ?_
    · intro refresh _
      exact ⟨rfl, rfl⟩
    · intro refresh searching sorted same
      refine ⟨sorted.order, same.adapter.trans sorted.adapter, ?_⟩
      rw [same.sorts]
      exact sorted.sorts
    · intro other
      exact (steps _ _).bind fun _ => .read fun _ _ => .pure _
  · intro refresh sorted
    exact ⟨sorted.order, sorted.adapter, sorted.sorts⟩

theorem treeFilter_keeps : Action.Keeps (Sorted start) treeFilter :=
  (treeFilter_stays (fun _ _ sorted => ⟨sorted.order, sorted.adapter, sorted.sorts⟩)
    (fun _ _ sorted => ⟨sorted.order, sorted.adapter, sorted.sorts⟩)
    fun _ _ sorted => ⟨sorted.order, sorted.adapter, sorted.sorts⟩).keeps

/-- Ordering changes the query as the order alone does; what is logged behind it leaves the query as it is. -/
theorem orderRows_query (refresh : Refresh) :
    (orderRows refresh).2.query = (refresh.rowOrder.run refresh.query).2 := by
  have ordered : (onQuery refresh.rowOrder.run refresh).2.query = (refresh.rowOrder.run refresh.query).2 := rfl
  change (ExceptT.bindCont (fun _ => note "ordering") (onQuery refresh.rowOrder.run refresh).1
    (onQuery refresh.rowOrder.run refresh).2 : Except Error Unit × Refresh).2.query = _
  rw [← ordered]
  generalize onQuery refresh.rowOrder.run refresh = outcome
  obtain ⟨result, after⟩ := outcome
  cases result with
  | error failure => rfl
  | ok done =>
    have stays : Action.Stays (fun last : Refresh => last.query = after.query) (note "ordering") :=
      note_stays (fun _ _ same => same) _
    exact stays after rfl

theorem orderRows_keeps (overrides : start.orders = []) (script : start.orderScript = none) :
    Action.Keeps (Sorted start) orderRows := by
  unfold orderRows
  refine .read fun refresh sorted => Action.Keeps.bind ?_ fun _ => note_keeps _
  intro before value after held ran
  obtain ⟨query, ordered, rfl⟩ := Action.on_ok ran
  rw [sorted.order] at ordered
  obtain ⟨adapter, added⟩ := RowOrder.run_writes overrides script ordered
  refine ⟨held.order, adapter.trans held.adapter, ?_⟩
  obtain ⟨texts, sorts, written⟩ := held.sorts
  obtain same | ⟨name, term, sql, writes, added⟩ := added
  · exact ⟨texts, same.trans sorts, written⟩
  · refine ⟨texts ++ [sql], ?_, ?_⟩
    · change query.sorts = _
      rw [added, sorts]
      simp
    · intro text member
      rcases List.mem_append.mp member with earlier | last
      · exact written text earlier
      · obtain rfl := List.mem_singleton.mp last
        rw [held.adapter] at writes
        exact ⟨name, term, _, directionWord_eq _, writes⟩

/-- Passes that come through add no sort terms but texts that are written with a direction. -/
theorem passes_sorted (overrides : start.orders = []) (script : start.orderScript = none) {passes : List Pass}
    {result : PUnit} {after : Refresh} (ran : passes.forM Pass.run start = (.ok result, after)) :
    Sorted start after := by
  have keeps : Action.Keeps (Sorted start) (passes.forM Pass.run) := by
    refine .forM passes fun pass => ?_
    cases pass with
    | globalSearch => exact (runSearch_keeps fun _ => Search.runGlobal_keeps).bind fun _ => note_keeps _
    | columnSearch => exact (runSearch_keeps fun _ => Search.runOwn_keeps).bind fun _ => note_keeps _
    | treeFilter => exact treeFilter_keeps
    | orderRows => exact orderRows_keeps overrides script
  exact keeps _ _ _ (.refl start) ran

end Refresh

end DataGrid
