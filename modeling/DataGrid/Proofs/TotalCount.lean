import DataGrid.Proofs.RefreshCounts

/-! The count of all rows over any calls on a refresh. It is asked for once and kept, so it is the count of the
statement as it stood when it was first asked for. -/

namespace DataGrid

open Sql

namespace Refresh

/-- A call that a caller makes on a refresh. -/
inductive Call where
  | globalSearch | columnSearch | treeFilter | filterRows | orderRows | page | count | totalCount | run
  deriving DecidableEq, Repr

namespace Call

def action : Call → Action Refresh Unit
  | globalSearch => Refresh.globalSearch
  | columnSearch => Refresh.columnSearch
  | treeFilter => Refresh.treeFilter
  | filterRows => Refresh.filterRows
  | orderRows => Refresh.orderRows
  | page => Refresh.page
  | count => discard Refresh.count
  | totalCount => discard Refresh.totalCount
  | run => discard Refresh.run

/-- The refresh after some calls; a call that fails leaves what it did. -/
def runAll (calls : List Call) (refresh : Refresh) : Refresh :=
  calls.foldl (fun refresh call => (call.action refresh).2) refresh

/-- The refresh as it is when a call comes to ask for the count of all rows. -/
inductive Asks : Call → Refresh → Refresh → Prop where
  | totalCount {refresh} : Asks .totalCount refresh refresh
  | filterRows {refresh passed} (through : filterPasses refresh = (.ok (), passed))
      (unmarked : passed.applied = false) : Asks .filterRows refresh passed
  | run {refresh} : Asks .run refresh refresh

/-- A call that only counts, or filters and comes through with nothing to filter by. -/
def Quiet (call : Call) (refresh : Refresh) : Prop :=
  match call with
  | count | totalCount | run => True
  | globalSearch | columnSearch | treeFilter | filterRows =>
    ∃ after, call.action refresh = (.ok (), after) ∧ after.applied = false
  | orderRows | page => False

/-- Calls that are quiet one after the other. -/
def AllQuiet : List Call → Refresh → Prop
  | [], _ => True
  | call :: rest, refresh => call.Quiet refresh ∧ AllQuiet rest (call.action refresh).2

end Call

variable {before after : Refresh} {total : Option Int}

theorem kept_of_counts {step : Action Refresh Unit} (counts : ∀ start, Action.Stays (SameCounts start) step) :
    Action.Stays (·.total = total) step :=
  fun before held => ((counts before) before (.refl _)).total.trans held

theorem count_total : Action.Stays (·.total = total) count := count_stays fun _ _ held => held

/-- What stands for the count of all rows in a refresh: the answer to the statement that counts its rows. -/
def Answers (asker : Refresh) (total : Int) : Prop :=
  ∃ database counted, asker.database = some database ∧ asker.query.countSelect = .ok counted ∧
    Database.number (database.scalars.headD .null) = .ok total

theorem totalCount_fills {number : Int} (uncounted : before.total = none)
    (filled : (totalCount before).2.total = some number) : Answers before number := by
  have read : (get : Action Refresh Refresh) before = (.ok before, before) := rfl
  rw [totalCount, Action.bind_eq read, uncounted] at filled
  cases asked : count before with
  | mk outcome counted =>
    cases outcome with
    | error failure =>
      have kept : counted.total = none := count_total.after uncounted asked
      dsimp only at filled
      rw [Action.bind_error asked, kept] at filled
      cases filled
    | ok found =>
      dsimp only at filled
      rw [Action.bind_eq asked] at filled
      cases filled
      obtain ⟨database, statement, bound, returned, number, _⟩ := count_ok asked
      exact ⟨database, statement, bound, returned, number⟩

theorem totalCount_total {number : Int} : Action.Stays (·.total = some number) totalCount := fun before held => by
  rw [totalCount_known held]
  exact held

theorem countFiltered_total {number : Int} : Action.Stays (·.total = some number) countFiltered := by
  unfold countFiltered
  refine .read fun refresh _ => ?_
  have stored (found : Int) : Action.Stays (·.total = some number)
      (modify fun refresh : Refresh => { refresh with filtered := some found }) := .modify fun _ held => held
  split
  · exact count_total.bind stored
  · exact totalCount_total.bind stored

theorem filterRows_total {number : Int} : Action.Stays (·.total = some number) filterRows := fun before held => by
  rw [filterRows_passes]
  exact (kept_of_counts fun _ => filterPasses_counts).bind (fun _ => countFiltered_total) before held

/-- What a whole refresh does once the rows are counted. -/
private def finish (request : Request) (total : Int) : Action Refresh Answer := do
  if total ≠ 0 then
    filterRows
    orderRows
    pageIfAsked
  else modify fun refresh => { refresh with filtered := some 0 }
  let draw ← liftM (draw request)
  let filtered := (← get).filtered
  return { draw := draw, total := total, filtered := filtered, rows := ← rows }

private theorem run_eq (before : Refresh) :
    run before = (liftM before.request.check >>= fun _ => totalCount >>= finish before.request) before := rfl

private theorem finish_total {number : Int} (request : Request) (total : Int) :
    Action.Stays (·.total = some number) (finish request total) := by
  have last : Action.Stays (·.total = some number) (do
      let draw ← liftM (draw request)
      let filtered := (← get).filtered
      return { draw := draw, total := total, filtered := filtered, rows := ← rows } : Action Refresh Answer) := by
    refine .ask fun draw _ => .read fun refresh _ => Action.Stays.bind ?_ fun _ => .pure _
    unfold rows
    refine .read fun refresh _ => .ask fun statement _ => ?_
    exact Action.Stays.bind (.on fun _ _ held => held) fun _ => .lift _
  unfold finish
  dsimp only
  split
  · refine filterRows_total.bind fun _ => (kept_of_counts fun _ => orderRows_counts).bind fun _ => ?_
    exact (kept_of_counts fun _ => pageIfAsked_counts).bind fun _ => last
  · exact Action.Stays.bind (.modify fun _ held => held) fun _ => last

theorem run_total {number : Int} : Action.Stays (·.total = some number) run := fun before held => by
  rw [run_eq]
  exact Action.Stays.ask (fun _ _ => totalCount_total.bind (finish_total _)) before held

theorem run_fills {number : Int} (uncounted : before.total = none)
    (filled : (run before).2.total = some number) : Answers before number := by
  rw [run_eq] at filled
  cases checked : before.request.check with
  | error failure =>
    rw [checked] at filled
    cases uncounted.symm.trans filled
  | ok _ =>
    rw [checked] at filled
    cases asked : totalCount before with
    | mk outcome counted =>
      cases outcome with
      | error failure =>
        change (totalCount >>= finish before.request) before |>.2.total = _ at filled
        rw [Action.bind_error asked] at filled
        exact totalCount_fills uncounted (asked ▸ filled)
      | ok found =>
        change (totalCount >>= finish before.request) before |>.2.total = _ at filled
        rw [Action.bind_eq asked] at filled
        obtain ⟨middle, _, rfl⟩ := totalCount_counts uncounted asked
        have kept := finish_total before.request found { middle with total := some found } rfl
        cases kept.symm.trans filled
        exact totalCount_fills uncounted (congrArg (·.2.total) asked)

private def store (filtered : Int) : Action Refresh Unit :=
  modify fun refresh => { refresh with filtered := some filtered }

private theorem countFiltered_eq (before : Refresh) :
    countFiltered before = if before.applied then (count >>= store) before else (totalCount >>= store) before := by
  change (if before.applied = true then count >>= store else totalCount >>= store) before = _
  split <;> rfl

theorem filterRows_fills {number : Int} (uncounted : before.total = none)
    (filled : (filterRows before).2.total = some number) :
    ∃ passed, filterPasses before = (.ok (), passed) ∧ passed.applied = false ∧ Answers passed number := by
  rw [filterRows_passes] at filled
  cases through : filterPasses before with
  | mk outcome passed =>
    have kept : passed.total = none := (kept_of_counts fun _ => filterPasses_counts).after uncounted through
    cases outcome with
    | error failure =>
      rw [Action.bind_error through, kept] at filled
      cases filled
    | ok _ =>
      rw [Action.bind_eq through, countFiltered_eq] at filled
      have stored (total : Option Int) (found : Int) : Action.Stays (·.total = total) (store found) :=
        .modify fun _ held => held
      split at filled
      · cases ((count_total.bind (stored none)) passed kept).symm.trans filled
      case isFalse unmarked =>
        refine ⟨passed, rfl, Bool.eq_false_iff.mpr unmarked, ?_⟩
        cases asked : totalCount passed with
        | mk outcome counted =>
          refine totalCount_fills kept (asked ▸ ?_)
          cases outcome with
          | error failure => rwa [Action.bind_error asked] at filled
          | ok found => rwa [Action.bind_eq asked] at filled

namespace Call

theorem discard_state {σ α : Type} (step : Action σ α) (state : σ) : (discard step state).2 = (step state).2 := by
  have mapped : discard step = step >>= fun _ => pure () := by
    rw [bind_pure_comp, discard, map_const]
    rfl
  cases ran : step state with
  | mk outcome final =>
    rw [mapped]
    cases outcome with
    | error failure => rw [Action.bind_error ran]
    | ok value =>
      rw [Action.bind_eq ran]
      rfl

/-- A call that fills in the count of all rows asked for it. -/
theorem fills {call : Call} {number : Int} (uncounted : before.total = none)
    (filled : (call.action before).2.total = some number) : ∃ asker, call.Asks before asker ∧ Answers asker number := by
  have never {step : Action Refresh Unit} (keeps : Action.Stays (·.total = none) step)
      (filled : (step before).2.total = some number) : False := by
    cases (keeps before uncounted).symm.trans filled
  cases call with
  | globalSearch => exact (never (kept_of_counts fun _ => globalSearch_counts) filled).elim
  | columnSearch => exact (never (kept_of_counts fun _ => columnSearch_counts) filled).elim
  | treeFilter => exact (never (kept_of_counts fun _ => treeFilter_counts) filled).elim
  | orderRows => exact (never (kept_of_counts fun _ => orderRows_counts) filled).elim
  | page => exact (never (kept_of_counts fun _ => page_counts) filled).elim
  | filterRows =>
    obtain ⟨passed, through, unmarked, answers⟩ := filterRows_fills uncounted filled
    exact ⟨passed, .filterRows through unmarked, answers⟩
  | count =>
    rw [action, discard_state, count_total before uncounted] at filled
    cases filled
  | totalCount =>
    rw [action, discard_state] at filled
    exact ⟨before, .totalCount, totalCount_fills uncounted filled⟩
  | run =>
    rw [action, discard_state] at filled
    exact ⟨before, .run, run_fills uncounted filled⟩

/-- Once the count of all rows is known, no call changes it. -/
theorem keeps (call : Call) {number : Int} : Action.Stays (·.total = some number) call.action := by
  cases call with
  | globalSearch => exact kept_of_counts fun _ => globalSearch_counts
  | columnSearch => exact kept_of_counts fun _ => columnSearch_counts
  | treeFilter => exact kept_of_counts fun _ => treeFilter_counts
  | orderRows => exact kept_of_counts fun _ => orderRows_counts
  | page => exact kept_of_counts fun _ => page_counts
  | filterRows => exact filterRows_total
  | count => exact fun before held => (discard_state _ _).symm ▸ count_total before held
  | totalCount => exact fun before held => (discard_state _ _).symm ▸ totalCount_total before held
  | run => exact fun before held => (discard_state _ _).symm ▸ run_total before held

theorem runAll_append (first second : List Call) (refresh : Refresh) :
    runAll (first ++ second) refresh = runAll second (runAll first refresh) := List.foldl_append

theorem runAll_keeps (calls : List Call) {refresh : Refresh} {number : Int} (known : refresh.total = some number) :
    (runAll calls refresh).total = some number := by
  induction calls generalizing refresh with
  | nil => exact known
  | cons call rest ih => exact ih (call.keeps refresh known)

/-- The count of all rows was filled in by one of the calls. -/
theorem runAll_fills {calls : List Call} {refresh : Refresh} {number : Int} (uncounted : refresh.total = none)
    (filled : (runAll calls refresh).total = some number) :
    ∃ earlier call later asker, calls = earlier ++ call :: later ∧ (runAll earlier refresh).total = none ∧
      call.Asks (runAll earlier refresh) asker ∧ Answers asker number := by
  induction calls generalizing refresh with
  | nil => cases uncounted.symm.trans filled
  | cons call rest ih =>
    cases known : (call.action refresh).2.total with
    | none =>
      obtain ⟨earlier, filler, later, asker, rfl, still, asks, answers⟩ := ih known filled
      exact ⟨call :: earlier, filler, later, asker, rfl, still, asks, answers⟩
    | some found =>
      obtain rfl := Option.some.inj ((runAll_keeps rest known).symm.trans filled)
      obtain ⟨asker, asks, answers⟩ := fills uncounted known
      exact ⟨[], call, rest, asker, rfl, uncounted, asks, answers⟩

end Call

/-- A refresh with the query of another one, marked as that is. -/
structure SameQuery (start refresh : Refresh) : Prop where
  query : refresh.query = start.query
  applied : refresh.applied = start.applied

variable {start : Refresh}

theorem count_query : Action.Stays (SameQuery start) count := count_stays fun _ _ same => ⟨same.query, same.applied⟩

theorem totalCount_query : Action.Stays (SameQuery start) totalCount :=
  totalCount_stays (fun _ _ same => ⟨same.query, same.applied⟩) fun _ _ same => ⟨same.query, same.applied⟩

theorem countFiltered_query : Action.Stays (SameQuery start) countFiltered :=
  countFiltered_stays (fun _ _ same => ⟨same.query, same.applied⟩) (fun _ _ same => ⟨same.query, same.applied⟩)
    fun _ _ same => ⟨same.query, same.applied⟩

theorem totalCount_some {number : Int} (ran : totalCount before = (.ok number, after)) : after.total = some number := by
  cases known : before.total with
  | some total =>
    cases (totalCount_known known).symm.trans ran
    exact known
  | none =>
    obtain ⟨_, _, rfl⟩ := totalCount_counts known ran
    rfl

/-- A refresh that does not come to a count of its rows leaves its query alone. -/
theorem run_query (still : (run before).2.total = none) : SameQuery before (run before).2 := by
  rw [run_eq] at still ⊢
  cases checked : before.request.check with
  | error failure => exact ⟨rfl, rfl⟩
  | ok _ =>
    rw [checked] at still
    change SameQuery before ((totalCount >>= finish before.request) before).2
    change ((totalCount >>= finish before.request) before).2.total = none at still
    cases asked : totalCount before with
    | mk outcome counted =>
      cases outcome with
      | error failure =>
        rw [Action.bind_error asked]
        exact totalCount_query.after ⟨rfl, rfl⟩ asked
      | ok found =>
        rw [Action.bind_eq asked] at still
        cases (finish_total before.request found counted (totalCount_some asked)).symm.trans still

namespace Call

/-- A quiet call that leaves the rows uncounted leaves the query without filters. -/
theorem quiet_bare {call : Call} {base : Select} (bare : before.query.Bare base) (unmarked : before.applied = false)
    (quiet : call.Quiet before) (still : (call.action before).2.total = none) :
    (call.action before).2.query.Bare base ∧ (call.action before).2.applied = false := by
  have same (after : Refresh) (same : SameQuery before after) : after.query.Bare base ∧ after.applied = false :=
    ⟨same.query ▸ bare, same.applied.trans unmarked⟩
  cases call with
  | count =>
    rw [action, discard_state]
    exact same _ (count_query before ⟨rfl, rfl⟩)
  | totalCount =>
    rw [action, discard_state]
    exact same _ (totalCount_query before ⟨rfl, rfl⟩)
  | run =>
    rw [action, discard_state] at still ⊢
    exact same _ (run_query still)
  | globalSearch =>
    obtain ⟨after, ran, silent⟩ := quiet
    rw [ran]
    exact ⟨(globalSearch_untouched bare.formed ran silent).bare bare, silent⟩
  | columnSearch =>
    obtain ⟨after, ran, silent⟩ := quiet
    rw [ran]
    exact ⟨(columnSearch_untouched ran silent).bare bare, silent⟩
  | treeFilter =>
    obtain ⟨after, ran, silent⟩ := quiet
    rw [ran]
    exact ⟨(treeFilter_untouched ran silent).bare bare, silent⟩
  | filterRows =>
    obtain ⟨after, ran, silent⟩ := quiet
    rw [ran]
    rw [action, filterRows_passes] at ran
    obtain ⟨_, passed, through, ran⟩ := Action.bind_ok ran
    have kept := countFiltered_query.after ⟨rfl, rfl⟩ ran
    have untouched := filterPasses_untouched bare.formed through (kept.applied.symm.trans silent)
    exact ⟨kept.query ▸ untouched.bare bare, silent⟩
  | orderRows | page => exact quiet.elim

theorem allQuiet_bare {calls : List Call} {base : Select} (bare : before.query.Bare base)
    (unmarked : before.applied = false) (quiet : AllQuiet calls before) (still : (runAll calls before).total = none) :
    (runAll calls before).query.Bare base ∧ (runAll calls before).applied = false := by
  induction calls generalizing before with
  | nil => exact ⟨bare, unmarked⟩
  | cons call rest ih =>
    cases known : (call.action before).2.total with
    | none =>
      obtain ⟨bare, unmarked⟩ := quiet_bare bare unmarked quiet.1 known
      exact ih bare unmarked quiet.2 still
    | some number => cases (runAll_keeps rest known).symm.trans still

/-- After quiet calls the one that asks for the count finds the base. -/
theorem Asks.bare {call : Call} {asker : Refresh} {base : Select} (bare : before.query.Bare base)
    (asks : call.Asks before asker) : asker.query.Bare base := by
  cases asks with
  | totalCount | run => exact bare
  | filterRows through unmarked => exact (filterPasses_untouched bare.formed through unmarked).bare bare

/-- The count of all rows over any calls. Once it is known, every later call finds it and nothing is sent for it. It is
the answer to the statement that counts the query as it stood when a call first asked for it, and the query stood for the
base if the calls before were quiet. -/
theorem runAll_total {base : Select} (fresh : start.Fresh base) (calls : List Call) :
    (∀ total, (runAll calls start).total = some total →
      (∀ later, Refresh.totalCount (runAll (calls ++ later) start) = (.ok total, runAll (calls ++ later) start)) ∧
      ∃ earlier call later asker statement counted database, calls = earlier ++ call :: later ∧
        (runAll earlier start).total = none ∧ call.Asks (runAll earlier start) asker ∧
        asker.query.Counts statement counted ∧ asker.database = some database ∧
        Database.number (database.scalars.headD .null) = .ok total ∧
        (AllQuiet earlier start → statement = base)) ∧
    ∀ total after, Refresh.totalCount (runAll calls start) = (.ok total, after) →
      runAll (calls ++ [.totalCount]) start = after ∧ after.total = some total := by
  refine ⟨fun total known => ⟨fun later => ?_, ?_⟩, fun total after ran => ⟨?_, totalCount_some ran⟩⟩
  · refine totalCount_known ?_
    rw [runAll_append]
    exact runAll_keeps later known
  · obtain ⟨earlier, call, later, asker, split, still, asks, database, counted, bound, returned, number⟩ :=
      runAll_fills fresh.uncounted known
    obtain ⟨statement, counts⟩ := Query.counts_of_ok returned
    refine ⟨earlier, call, later, asker, statement, counted, database, split, still, asks, counts, bound, number, ?_⟩
    intro quiet
    have bare := asks.bare (allQuiet_bare fresh.bare fresh.unfiltered quiet still).1
    exact Except.ok.inj (counts.select.symm.trans bare.select)
  · rw [runAll_append]
    change (discard Refresh.totalCount _).2 = after
    rw [discard_state, ran]

private def stock : Select := { Select.empty with source := some (.table ⟨"t", none⟩) }

/-- A search over one column, in five rows of which two are found. -/
private def sought (answers : List Value) : Refresh where
  request := ⟨.object [("draw", .int 1), ("search", .object [("value", .text "x")]),
    ("columns", .list [.object [("data", .text "a"), ("searchable", .bool true)]])]⟩
  config := {}
  query := Query.ofSelect stock .sqlite false
  registry := {}
  paths := PathSet.expand []
  database := some ⟨answers, [], []⟩

private theorem split_pair {first second call : Call} {earlier later : List Call}
    (split : [first, second] = earlier ++ call :: later) :
    earlier = [] ∧ call = first ∨ earlier = [first] ∧ call = second := by
  obtain _ | ⟨head, _ | ⟨next, rest⟩⟩ := earlier
  · cases split
    exact .inl ⟨rfl, rfl⟩
  · cases split
    exact .inr ⟨rfl, rfl⟩
  · simp at split

/-- Asked for before the search the count is that of the base, and after it that of the rows that were found. -/
theorem runAll_total_sought :
    ((runAll [.totalCount, .globalSearch] (sought [.int 5])).total = some 5 ∧
      ∃ counted, (sought [.int 5]).query.Counts stock counted) ∧
    ((runAll [.globalSearch, .totalCount] (sought [.int 2])).total = some 2 ∧
      ∃ statement counted, (runAll [.globalSearch] (sought [.int 2])).query.Counts statement counted ∧
        statement.filter.isSome) := by
  have fresh (answers : List Value) : (sought answers).Fresh stock := ⟨⟨_, _, rfl⟩, rfl, rfl⟩
  constructor
  · have known : (runAll [.totalCount, .globalSearch] (sought [.int 5])).total = some 5 := by decide +kernel
    obtain ⟨earlier, call, later, asker, statement, counted, _, split, _, asks, counts, _, _, quiet⟩ :=
      ((runAll_total (fresh _) _).1 5 known).2
    obtain ⟨rfl, rfl⟩ | ⟨_, rfl⟩ := split_pair split
    · obtain rfl := quiet trivial
      cases asks
      exact ⟨known, counted, counts⟩
    · cases asks
  · have known : (runAll [.globalSearch, .totalCount] (sought [.int 2])).total = some 2 := by decide +kernel
    obtain ⟨earlier, call, later, asker, statement, counted, _, split, _, asks, counts, _, _, _⟩ :=
      ((runAll_total (fresh _) _).1 2 known).2
    obtain ⟨_, rfl⟩ | ⟨rfl, rfl⟩ := split_pair split
    · cases asks
    · cases asks
      have filtered : (runAll [.globalSearch] (sought [.int 2])).query.select.map (·.filter.isSome) = .ok true := by
        decide +kernel
      rw [counts.select] at filtered
      exact ⟨known, statement, counted, counts, Except.ok.inj filtered⟩

end Call

end Refresh

end DataGrid
