import DataGrid.Search
import DataGrid.Proofs.ActionSteps

/-! What the two searches of a request keep of its query. They write conditions and join along the paths of columns, so
what does not go by conditions stays as it is under the one, and under the other as far as the joins keep it. -/

namespace DataGrid

open Sql

theorem PathSet.split?_mem {paths : PathSet} {column path name : String}
    (split : paths.split? column = some (path, name)) : path ∈ paths :=
  List.contains_iff_mem.mp (Option.filter_eq_some_iff.mp split).2

namespace Search

variable {search : Search} {holds : Query → Prop}

theorem markApplied_stays : Action.Stays (fun searching => holds searching.query) Searching.markApplied :=
  fun _ held => held

section Stored
variable (stored : ∀ query store, holds query → holds { query with store := store })

include stored

theorem tryStore_stays (change : Store → Except Error Store) :
    Action.Stays (fun searching => holds searching.query) (Searching.tryStore change) := by
  unfold Searching.tryStore
  exact .read fun searching held => .ask fun store _ => .set (stored _ store held)

theorem onStore_stays {α : Type} (step : Action Store α) :
    Action.Stays (fun searching => holds searching.query) (Searching.onStore step) := fun _ held => stored _ _ held

theorem addScript_stays (id : GroupId) (junction : Junction) (script : List GroupStep) :
    Action.Stays (fun searching => holds searching.query) (addScript id junction script) := by
  unfold addScript
  refine (onStore_stays stored _).bind fun scope => .read fun searching _ => ?_
  exact (onStore_stays stored _).bind fun _ => tryStore_stays stored _

theorem addAlternative_stays (id : GroupId) (keyword : String) (column : Column) :
    Action.Stays (fun searching => holds searching.query) (search.addAlternative id keyword column) := by
  unfold addAlternative
  refine .read fun searching _ => ?_
  cases search.overrides.lookup column.name with
  | some override =>
    cases override with
    | callback script => exact (addScript_stays stored _ _ _).bind fun _ => markApplied_stays
    | named override =>
      dsimp only
      split
      · exact (tryStore_stays stored _).bind fun _ => markApplied_stays
      · exact .pure _
  | none =>
    dsimp only
    split
    · exact .ask fun _ _ => (tryStore_stays stored _).bind fun _ => markApplied_stays
    · exact .pure _

/-- The search over all columns keeps what does not go by conditions. -/
theorem runGlobal_stays : Action.Stays (fun searching => holds searching.query) search.runGlobal := by
  unfold runGlobal
  refine .ask fun keyword _ => .forM _ fun term _ => ?_
  unfold searchAll
  refine .read fun searching _ => (onStore_stays stored _).bind fun id => .ask fun columns _ => ?_
  exact .forM _ fun column _ => addAlternative_stays stored id term column

theorem searchOwn_stays
    (reached : ∀ path ∈ search.paths, ∀ query column name after, holds query →
      query.joinPath search.registry path column = .ok (name, after) → holds after) (column : Column) :
    Action.Stays (fun searching => holds searching.query) (search.searchOwn column) := by
  unfold searchOwn
  refine .read fun searching held => ?_
  cases search.overrides.lookup column.name with
  | some override =>
    cases override with
    | callback script => exact (addScript_stays stored _ _ _).bind fun _ => markApplied_stays
    | named override => exact (tryStore_stays stored _).bind fun _ => markApplied_stays
  | none =>
    refine .ask fun reach found => Action.Stays.bind (.modify fun _ _ => ?_) fun _ => .ask fun test _ => ?_
    · obtain ⟨name, joined⟩ := reach
      unfold Search.reach at found
      split at found
      · next path _ split => exact reached path (PathSet.split?_mem split) _ _ _ _ held found
      · cases found
        exact held
    · exact (tryStore_stays stored _).bind fun _ => markApplied_stays

/-- The search by the columns' own keywords keeps what joining along its paths keeps, and does not go by conditions. -/
theorem runOwn_stays
    (reached : ∀ path ∈ search.paths, ∀ query column name after, holds query →
      query.joinPath search.registry path column = .ok (name, after) → holds after) :
    Action.Stays (fun searching => holds searching.query) search.runOwn := by
  unfold runOwn
  exact .ask fun columns _ => .forM _ fun column _ => searchOwn_stays stored reached column

end Stored

end Search

end DataGrid
