import DataGrid.Proofs.FilterPasses

/-! What the passes of a refresh leave alone. Each pass keeps what goes by the fields that it does not set; so whether
it comes through or fails on its way, it asks the database nothing and keeps what was counted before it. -/

namespace DataGrid

namespace Refresh

section Rules
variable {holds : Refresh → Prop} (logged : ∀ refresh log, holds refresh → holds { refresh with log := log })
  (marked : ∀ refresh applied, holds refresh → holds { refresh with applied := applied })
  (asked : ∀ refresh database, holds refresh → holds { refresh with database := database })

include logged in
theorem note_stays (pass : String) : Action.Stays holds (note pass) := by
  unfold note
  refine .read fun refresh _ => ?_
  split
  · exact .ask fun text _ => .modify fun _ held => logged _ _ held
  · exact .pure _

include marked in
/-- A search keeps what goes by what it keeps of the query. -/
theorem runSearch_stays (inner : Query → Prop) {pass : Search → Action Searching Unit}
    (part : ∀ refresh, holds refresh → inner refresh.query)
    (whole : ∀ refresh query, holds refresh → inner query → holds { refresh with query := query })
    (stays : ∀ refresh, holds refresh → Action.Stays (fun searching => inner searching.query) (pass refresh.search)) :
    Action.Stays holds (runSearch pass) := by
  unfold runSearch
  refine .read fun refresh held => ?_
  have searched : Action.Stays (fun searching => inner searching.query) (do
      pass refresh.search
      return (← get).applied) := (stays refresh held).bind fun _ => .read fun _ _ => .pure _
  exact (Action.Stays.onPart searched part fun _ _ => whole _ _).bind fun _ => .modify fun _ held => marked _ _ held

theorem searchPass_stays (search : Action.Stays holds globalSearch) : Action.Stays holds searchPass := by
  unfold searchPass
  refine .read fun refresh _ => ?_
  split
  · refine .ask fun searchable _ => ?_
    split
    · exact search
    · exact .pure _
  · exact .pure _

include logged marked in
theorem treeFilter_stays
    (stored : ∀ refresh store, holds refresh → holds { refresh with query := { refresh.query with store := store } }) :
    Action.Stays holds treeFilter := by
  unfold treeFilter
  refine .read fun refresh _ => .ask fun value _ => Action.Stays.bind ?_ fun tree => ?_
  · exact Action.Stays.bind (.modify fun _ held => logged _ _ held) fun _ => .lift _
  · cases tree with
    | none => exact .pure _
    | some tree =>
      refine .read fun refresh _ => Action.Stays.bind (.on fun state scope held => ?_) fun _ =>
        Action.Stays.bind (.modify fun _ held => marked _ _ held) fun _ => note_stays logged _
      exact logged { state with query := { state.query with store := scope.store } } _ (stored state _ held)

include asked in
theorem count_stays : Action.Stays holds count := by
  unfold count
  refine .read fun refresh _ => .ask fun statement _ =>
    Action.Stays.bind (.on fun _ _ held => asked _ _ held) fun answer => ?_
  split
  · exact .lift _
  · exact .pure _

include asked in
theorem totalCount_stays (totalled : ∀ refresh total, holds refresh → holds { refresh with total := total }) :
    Action.Stays holds totalCount := by
  unfold totalCount
  refine .read fun refresh _ => ?_
  cases refresh.total with
  | some total => exact .pure _
  | none =>
    refine (count_stays asked).bind fun total => Action.Stays.bind (.modify ?_) fun _ => .pure _
    exact fun _ held => totalled _ _ held

end Rules

/-- A refresh with the counts and the database of another one. -/
structure SameCounts (start refresh : Refresh) : Prop where
  total : refresh.total = start.total
  filtered : refresh.filtered = start.filtered
  database : refresh.database = start.database

variable {start : Refresh}

theorem SameCounts.refl (refresh : Refresh) : SameCounts refresh refresh := ⟨rfl, rfl, rfl⟩

theorem SameCounts.trans {before between after : Refresh} (one : SameCounts before between)
    (other : SameCounts between after) : SameCounts before after :=
  ⟨other.total.trans one.total, other.filtered.trans one.filtered, other.database.trans one.database⟩

theorem SameCounts.logged (refresh : Refresh) (log : Log) (same : SameCounts start refresh) :
    SameCounts start { refresh with log := log } := ⟨same.total, same.filtered, same.database⟩

theorem SameCounts.marked (refresh : Refresh) (applied : Bool) (same : SameCounts start refresh) :
    SameCounts start { refresh with applied := applied } := ⟨same.total, same.filtered, same.database⟩

theorem SameCounts.withQuery (refresh : Refresh) (query : Query) (same : SameCounts start refresh) :
    SameCounts start { refresh with query := query } := ⟨same.total, same.filtered, same.database⟩

theorem note_counts (pass : String) : Action.Stays (SameCounts start) (note pass) := note_stays .logged pass

theorem runSearch_counts (pass : Search → Action Searching Unit) : Action.Stays (SameCounts start) (runSearch pass) :=
  runSearch_stays .marked (fun _ => True) (fun _ _ => trivial) (fun _ _ same _ => .withQuery _ _ same) fun _ _ _ _ =>
    trivial

theorem globalSearch_counts : Action.Stays (SameCounts start) globalSearch :=
  (runSearch_counts _).bind fun _ => note_counts _

theorem columnSearch_counts : Action.Stays (SameCounts start) columnSearch :=
  (runSearch_counts _).bind fun _ => note_counts _

theorem scriptFilter_counts : Action.Stays (SameCounts start) scriptFilter := by
  unfold scriptFilter
  refine .read fun refresh _ => ?_
  cases refresh.filterScript with
  | none => exact .pure _
  | some script =>
    exact Action.Stays.bind (.on fun _ _ same => .withQuery _ _ same) fun _ => .modify fun _ same => .marked _ _ same

theorem treeFilter_counts : Action.Stays (SameCounts start) treeFilter :=
  treeFilter_stays .logged .marked fun _ _ same => .withQuery _ _ same

theorem orderRows_counts : Action.Stays (SameCounts start) orderRows := by
  unfold orderRows
  exact .read fun refresh _ => Action.Stays.bind (.on fun _ _ same => .withQuery _ _ same) fun _ => note_counts _

theorem setWindow_counts : Action.Stays (SameCounts start) setWindow := by
  unfold setWindow
  refine .read fun refresh same => ?_
  have window (query : Query) : Action.Stays (SameCounts start)
      (set { refresh with query := query, paged := true } : Action Refresh PUnit) :=
    .modify fun _ _ => ⟨same.total, same.filtered, same.database⟩
  split
  · exact (Action.Stays.raise _).bind fun _ => .ask fun query _ => window query
  · exact .ask fun query _ => window query

theorem page_counts : Action.Stays (SameCounts start) page := setWindow_counts.bind fun _ => note_counts _

theorem pageIfAsked_counts : Action.Stays (SameCounts start) pageIfAsked := by
  unfold pageIfAsked
  refine .read fun refresh _ => .ask fun asked _ => ?_
  split
  · exact page_counts
  · exact .pure _

end Refresh

end DataGrid
