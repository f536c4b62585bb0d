import DataGrid.Proofs.CountFrames

/-! Passes that no column and no filter takes part in. Such a pass leaves the mark of the refresh as it is, and adds at
most groups that hold nothing, which the statement does not show. -/

namespace DataGrid

open Sql

/-- Groups that hold nothing, for terms that no column is searched for. -/
def Forest.blank (count : Nat) : Forest := List.replicate count (.and, .group [])

namespace Forest

theorem blank_append (first second : Nat) : blank first ++ blank second = blank (first + second) :=
  List.replicate_append_replicate

theorem hollow_blank (count : Nat) : (blank count).hollow = true := by
  induction count with
  | zero => rfl
  | succ count ih => exact ih

theorem height_blank (count : Nat) : (blank count).height ≤ 2 := by
  induction count with
  | zero => exact Nat.le_succ 1
  | succ count ih => exact Nat.max_le.mpr ⟨Nat.le_refl 2, ih⟩

theorem each_blank (holds : Cond → Prop) (count : Nat) : (blank count).Each holds := by
  induction count with
  | zero => trivial
  | succ count ih => exact ⟨trivial, ih⟩

end Forest

namespace Searching

/-- Once a column took part in a search, it has. -/
def Marked (searching : Searching) : Prop := searching.applied = true

theorem onStore_marked {α : Type} (step : Action Store α) : Action.Stays Marked (onStore step) :=
  .on fun _ _ marked => marked

theorem tryStore_marked (change : Store → Except Error Store) : Action.Stays Marked (tryStore change) := by
  unfold tryStore
  exact .read fun searching marked => .ask fun store _ => .modify fun _ _ => marked

theorem markApplied_marks {before after : Searching} {result : Unit} (ran : markApplied before = (.ok result, after)) :
    Marked after := by
  cases ran
  rfl

theorem markApplied_marked : Action.Stays Marked markApplied := .modify fun _ _ => rfl

end Searching

namespace Search

open Searching

variable {search : Search} {id : GroupId} {before after : Searching} {keyword : String} {column : Column}

theorem addScript_marked (junction : Junction) (script : List GroupStep) :
    Action.Stays Marked (addScript id junction script) := by
  unfold addScript
  refine (onStore_marked _).bind fun scope => .read fun searching _ => ?_
  exact (onStore_marked _).bind fun _ => tryStore_marked _

theorem addAlternative_marked (search : Search) (id : GroupId) (keyword : String) (column : Column) :
    Action.Stays Marked (search.addAlternative id keyword column) := by
  unfold addAlternative
  refine .read fun searching _ => ?_
  cases search.overrides.lookup column.name with
  | some override =>
    cases override with
    | callback script => exact (addScript_marked _ _).bind fun _ => markApplied_marked
    | named override =>
      dsimp only
      split
      · exact (tryStore_marked _).bind fun _ => markApplied_marked
      · exact .pure _
  | none =>
    dsimp only
    split
    · exact .ask fun _ _ => (tryStore_marked _).bind fun _ => markApplied_marked
    · exact .pure _

/-- A column that takes part in the search leaves its mark. -/
theorem addAlternative_marks {result : Unit} (taken : search.takes column = true)
    (ran : search.addAlternative id keyword column before = (.ok result, after)) : Marked after := by
  obtain ⟨_, _, read, ran⟩ := Action.bind_ok ran
  cases read
  cases found : search.overrides.lookup column.name with
  | none =>
    rw [takes, found] at taken
    simp only [found, taken] at ran
    obtain ⟨_, _, _, ran⟩ := Action.bind_ok ran
    obtain ⟨_, _, _, ran⟩ := Action.bind_ok ran
    exact markApplied_marks ran
  | some override =>
    cases override with
    | callback script =>
      simp only [found] at ran
      obtain ⟨_, _, _, ran⟩ := Action.bind_ok ran
      exact markApplied_marks ran
    | named override =>
      rw [takes, found] at taken
      simp only [found, taken] at ran
      obtain ⟨_, _, _, ran⟩ := Action.bind_ok ran
      exact markApplied_marks ran

/-- A step over several items that leaves no mark comes to no item that leaves one. -/
theorem forM_unmarked {step : Column → Action Searching PUnit} (marks : Column → Prop)
    (keeps : ∀ column, Action.Stays Marked (step column))
    (each : ∀ column before result after, marks column → step column before = (.ok result, after) → Marked after)
    {columns : List Column} {result : PUnit} (ran : columns.forM step before = (.ok result, after))
    (unmarked : after.applied = false) : ∀ column ∈ columns, ¬ marks column := by
  induction columns generalizing before with
  | nil => exact fun _ member => nomatch member
  | cons column rest ih =>
    obtain ⟨_, middle, first, others⟩ := Action.bind_ok ran
    refine List.forall_mem_cons.mpr ⟨fun marked => ?_, ih others⟩
    have kept : Marked after := (Action.Stays.forM rest fun column _ => keeps column).after (each _ _ _ _ marked first) others
    cases unmarked.symm.trans kept

theorem searchAll_marked (search : Search) (keyword : String) : Action.Stays Marked (search.searchAll keyword) := by
  unfold searchAll
  refine .read fun searching _ => (onStore_marked _).bind fun id => .ask fun columns _ => ?_
  exact .forM _ fun column _ => search.addAlternative_marked id keyword column

/-- A term that no column takes part in the search for adds a group that holds nothing. -/
theorem searchAll_blank {result : Unit} (inside : before.query.root < before.query.store.size)
    (ran : search.searchAll keyword before = (.ok result, after)) (unmarked : after.applied = false) :
    Searching.Appends before.query.root before after (.blank 1) := by
  obtain ⟨trees, asked, appended⟩ := searchAll_appends inside ran
  obtain ⟨_, _, read, ran⟩ := Action.bind_ok ran
  cases read
  obtain ⟨id, _, _, ran⟩ := Action.bind_ok ran
  obtain ⟨columns, _, listed, ran⟩ := Action.bind_ok ran
  obtain ⟨found, rfl⟩ := Action.lift_ok listed
  have spared := forM_unmarked (search.takes · = true) (search.addAlternative_marked id keyword)
    (fun _ _ _ _ taken => addAlternative_marks taken) ran unmarked
  have none : (columns.filter (·.searchable)).filter search.takes = [] := by
    rw [List.filter_eq_nil_iff]
    exact spared
  rw [alternatives, found, Except.ok_bind, none] at asked
  cases asked
  exact appended

private theorem searchTerms_blank {words : List String} {result : PUnit}
    (inside : before.query.root < before.query.store.size)
    (ran : words.forM search.searchAll before = (.ok result, after)) (unmarked : after.applied = false) :
    ∃ count, Searching.Appends before.query.root before after (.blank count) := by
  induction words generalizing before with
  | nil =>
    cases ran
    exact ⟨0, .refl _ _⟩
  | cons term rest ih =>
    obtain ⟨_, middle, first, others⟩ := Action.bind_ok ran
    have early : middle.applied = false := by
      refine Bool.eq_false_iff.mpr fun marked => ?_
      have kept : Marked after := (Action.Stays.forM rest fun term _ => search.searchAll_marked term).after marked others
      cases unmarked.symm.trans kept
    have one := searchAll_blank inside first early
    have same : middle.query.root = before.query.root := by rw [one.query]
    obtain ⟨count, more⟩ := ih (same ▸ Nat.lt_of_lt_of_le inside one.store.size) others
    refine ⟨1 + count, ?_⟩
    rw [← Forest.blank_append]
    exact one.trans inside (same ▸ more)

theorem runGlobal_blank {result : PUnit} (inside : before.query.root < before.query.store.size)
    (ran : search.runGlobal before = (.ok result, after)) (unmarked : after.applied = false) :
    ∃ count, Searching.Appends before.query.root before after (.blank count) := by
  obtain ⟨word, _, asked, ran⟩ := Action.bind_ok ran
  obtain ⟨_, rfl⟩ := Action.lift_ok asked
  exact searchTerms_blank inside ran unmarked

theorem searchOwn_marked (search : Search) (column : Column) : Action.Stays Marked (search.searchOwn column) := by
  unfold searchOwn
  refine .read fun searching _ => ?_
  have marks : Action.Stays Marked markApplied := markApplied_marked
  cases search.overrides.lookup column.name with
  | some override =>
    cases override with
    | callback script => exact (addScript_marked _ _).bind fun _ => marks
    | named override => exact (tryStore_marked _).bind fun _ => marks
  | none =>
    refine .ask fun reached _ => Action.Stays.bind (.modify fun _ marked => marked) fun _ => ?_
    exact .ask fun _ _ => (tryStore_marked _).bind fun _ => marks

theorem searchOwn_marks {result : Unit} (ran : search.searchOwn column before = (.ok result, after)) : Marked after := by
  obtain ⟨_, _, read, ran⟩ := Action.bind_ok ran
  cases read
  cases found : search.overrides.lookup column.name with
  | some override =>
    cases override with
    | callback script | named override =>
      simp only [found] at ran
      obtain ⟨_, _, _, ran⟩ := Action.bind_ok ran
      exact markApplied_marks ran
  | none =>
    simp only [found] at ran
    obtain ⟨_, _, _, ran⟩ := Action.bind_ok ran
    obtain ⟨_, _, _, ran⟩ := Action.bind_ok ran
    obtain ⟨_, _, _, ran⟩ := Action.bind_ok ran
    obtain ⟨_, _, _, ran⟩ := Action.bind_ok ran
    exact markApplied_marks ran

/-- The search by the columns' own keywords does nothing where no column has one. -/
theorem runOwn_unmarked {result : PUnit} (ran : search.runOwn before = (.ok result, after))
    (unmarked : after.applied = false) : after = before := by
  obtain ⟨columns, _, listed, ran⟩ := Action.bind_ok ran
  obtain ⟨_, rfl⟩ := Action.lift_ok listed
  have none := forM_unmarked (fun _ => True) search.searchOwn_marked (fun _ _ _ _ _ => searchOwn_marks) ran unmarked
  have nothing : columns.filter (fun column => column.searchable && column.searchValue != "") = [] :=
    List.eq_nil_iff_forall_not_mem.mpr fun column member => none column member trivial
  rw [nothing] at ran
  cases ran
  rfl

end Search

namespace Refresh

/-- A refresh with more groups that hold nothing below the root, and perhaps with more in its log. -/
structure Untouched (before after : Refresh) : Prop where
  rest : after = { before with query := { before.query with store := after.query.store }, log := after.log }
  store : ∃ count, Store.Appends before.query.root before.query.store after.query.store (.blank count)

variable {before between after : Refresh} {result : PUnit}

theorem Untouched.refl (refresh : Refresh) : Untouched refresh refresh := ⟨rfl, 0, .refl _ _⟩

theorem Untouched.root (one : Untouched before after) : after.query.root = before.query.root := by rw [one.rest]

theorem Untouched.applied (one : Untouched before after) : after.applied = before.applied := by rw [one.rest]

theorem Untouched.formed (one : Untouched before after) (formed : before.query.Formed) : after.query.Formed := by
  obtain ⟨count, appended⟩ := one.store
  exact ⟨appended.closed formed.closed, one.root ▸ Nat.lt_of_lt_of_le formed.root appended.size⟩

theorem Untouched.trans (formed : before.query.Formed) (one : Untouched before between)
    (other : Untouched between after) : Untouched before after := by
  obtain ⟨first, appended⟩ := one.store
  obtain ⟨second, more⟩ := other.store
  refine ⟨?_, first + second, ?_⟩
  · rw [other.rest, one.rest]
  · rw [← Forest.blank_append]
    exact appended.trans formed.root (one.root ▸ more)

theorem note_untouched {pass : String} (ran : note pass before = (.ok result, after)) : Untouched before after := by
  obtain ⟨log, rfl⟩ := note_ok ran
  exact ⟨rfl, 0, .refl _ _⟩

/-- A search that leaves no mark on the refresh left none on its query. -/
private theorem runSearch_unmarked {pass : Search → Action Searching Unit}
    (ran : runSearch pass before = (.ok result, after)) (unmarked : after.applied = false) :
    ∃ final : Searching, pass before.search { query := before.query } = (.ok (), final) ∧ final.applied = false ∧
      after = { before with query := final.query } := by
  obtain ⟨_, _, read, ran⟩ := Action.bind_ok ran
  cases read
  obtain ⟨applied, _, searched, ran⟩ := Action.bind_ok ran
  obtain ⟨final, inner, rfl⟩ := Action.on_ok searched
  obtain ⟨_, _, passed, done⟩ := Action.bind_ok inner
  obtain ⟨_, _, read, done⟩ := Action.bind_ok done
  cases read
  cases done
  cases ran
  obtain ⟨early, late⟩ := Bool.or_eq_false_iff.mp unmarked
  have same : (before.applied || final.applied) = before.applied := by rw [early, late, Bool.or_false]
  exact ⟨_, passed, late, congrArg (fun mark => { before with query := final.query, applied := mark }) same⟩

theorem globalSearch_untouched (formed : before.query.Formed) (ran : globalSearch before = (.ok result, after))
    (unmarked : after.applied = false) : Untouched before after := by
  obtain ⟨_, middle, searched, noted⟩ := Action.bind_ok ran
  have later := note_untouched noted
  obtain ⟨final, passed, spared, rfl⟩ := runSearch_unmarked searched (later.applied.symm.trans unmarked)
  obtain ⟨count, appended⟩ := Search.runGlobal_blank formed.root passed spared
  have one : Untouched before { before with query := final.query } := by
    refine ⟨?_, count, appended.store⟩
    exact congrArg (fun query => { before with query := query }) appended.query
  exact one.trans formed later

theorem columnSearch_untouched (ran : columnSearch before = (.ok result, after))
    (unmarked : after.applied = false) : Untouched before after := by
  obtain ⟨_, middle, searched, noted⟩ := Action.bind_ok ran
  have later := note_untouched noted
  obtain ⟨final, passed, spared, rfl⟩ := runSearch_unmarked searched (later.applied.symm.trans unmarked)
  rw [Search.runOwn_unmarked passed spared] at later
  exact later

theorem scriptFilter_untouched (ran : scriptFilter before = (.ok result, after)) (unmarked : after.applied = false) :
    Untouched before after := by
  obtain ⟨_, _, read, ran⟩ := Action.bind_ok ran
  cases read
  cases found : before.filterScript with
  | none =>
    simp only [found] at ran
    cases ran
    exact .refl _
  | some script =>
    simp only [found] at ran
    obtain ⟨_, _, _, ran⟩ := Action.bind_ok ran
    cases ran
    cases unmarked

theorem treeFilter_untouched (ran : treeFilter before = (.ok result, after)) (unmarked : after.applied = false) :
    Untouched before after := by
  obtain ⟨_, _, read, ran⟩ := Action.bind_ok ran
  cases read
  obtain ⟨value, _, asked, ran⟩ := Action.bind_ok ran
  obtain ⟨_, rfl⟩ := Action.lift_ok asked
  obtain ⟨tree, _, understood, ran⟩ := Action.bind_ok ran
  obtain ⟨_, _, noted, understood⟩ := Action.bind_ok understood
  cases noted
  obtain ⟨_, rfl⟩ := Action.lift_ok understood
  cases tree with
  | none =>
    cases ran
    exact ⟨rfl, 0, .refl _ _⟩
  | some tree =>
    obtain ⟨_, _, read, ran⟩ := Action.bind_ok ran
    cases read
    obtain ⟨_, _, _, ran⟩ := Action.bind_ok ran
    obtain ⟨_, _, marked, ran⟩ := Action.bind_ok ran
    cases marked
    cases (note_untouched ran).applied.symm.trans unmarked

theorem searchPass_untouched (formed : before.query.Formed) (ran : searchPass before = (.ok result, after))
    (unmarked : after.applied = false) : Untouched before after := by
  obtain ⟨_, _, read, ran⟩ := Action.bind_ok ran
  cases read
  split at ran
  · obtain ⟨searchable, _, asked, ran⟩ := Action.bind_ok ran
    obtain ⟨_, rfl⟩ := Action.lift_ok asked
    cases searchable with
    | false =>
      cases ran
      exact .refl _
    | true => exact globalSearch_untouched formed ran unmarked
  · cases ran
    exact .refl _

/-- The passes that filter, up to the count of the rows that are left. -/
def filterPasses : Action Refresh Unit := do
  searchPass
  scriptFilter
  columnSearch
  treeFilter

def countFiltered : Action Refresh Unit := do
  let filtered ← if (← get).applied then count else totalCount
  modify fun refresh => { refresh with filtered := some filtered }

theorem countFiltered_stays {holds : Refresh → Prop}
    (asked : ∀ refresh database, holds refresh → holds { refresh with database := database })
    (totalled : ∀ refresh total, holds refresh → holds { refresh with total := total })
    (stored : ∀ refresh filtered, holds refresh → holds { refresh with filtered := filtered }) :
    Action.Stays holds countFiltered := by
  unfold countFiltered
  refine .read fun refresh _ => ?_
  split
  · exact (count_stays asked).bind fun _ => .modify fun _ held => stored _ _ held
  · exact (totalCount_stays asked totalled).bind fun _ => .modify fun _ held => stored _ _ held

theorem filterRows_passes (before : Refresh) :
    filterRows before = (filterPasses >>= fun _ => countFiltered) before := by
  rw [filterRows_eq]
  simp only [filterPasses, laterPasses, bind_assoc]
  rfl

/-- Passes that filter nothing touch nothing. -/
theorem filterPasses_untouched (formed : before.query.Formed) (ran : filterPasses before = (.ok result, after))
    (unmarked : after.applied = false) : Untouched before after := by
  obtain ⟨_, first, searched, ran⟩ := Action.bind_ok ran
  obtain ⟨_, second, scripted, ran⟩ := Action.bind_ok ran
  obtain ⟨_, third, owned, treed⟩ := Action.bind_ok ran
  -- A mark stays, so no pass before the last one left one either.
  have fourth := treeFilter_untouched treed unmarked
  have own := columnSearch_untouched owned (fourth.applied.symm.trans unmarked)
  have script := scriptFilter_untouched scripted (own.applied.symm.trans (fourth.applied.symm.trans unmarked))
  have search := searchPass_untouched formed searched
    (script.applied.symm.trans (own.applied.symm.trans (fourth.applied.symm.trans unmarked)))
  have formed₁ := search.formed formed
  have formed₂ := script.formed formed₁
  exact search.trans formed (script.trans formed₁ (own.trans formed₂ fourth))

theorem filterPasses_counts {start : Refresh} : Action.Stays (SameCounts start) filterPasses :=
  (searchPass_stays globalSearch_counts).bind fun _ => scriptFilter_counts.bind fun _ =>
    columnSearch_counts.bind fun _ => treeFilter_counts

end Refresh

namespace Query

/-- A query that nothing was added to but groups that hold nothing. -/
def Bare (query : Query) (base : Select) : Prop :=
  ∃ dialect oracle store count, Store.Appends 0 (ofSelect base dialect oracle).store store (.blank count) ∧
    query = { ofSelect base dialect oracle with store := store }

variable {query : Query} {base : Select}

theorem bare_ofSelect (base : Select) (dialect : Dialect) (oracle : Bool) : (ofSelect base dialect oracle).Bare base :=
  ⟨dialect, oracle, _, 0, .refl _ _, rfl⟩

theorem Bare.formed (bare : query.Bare base) : query.Formed := by
  obtain ⟨dialect, oracle, store, count, appended, rfl⟩ := bare
  have start := formed_ofSelect base dialect oracle
  exact ⟨appended.closed start.closed, Nat.lt_of_lt_of_le start.root appended.size⟩

private theorem clause_blank {store : Store} {count : Nat} {dialect : Dialect} {oracle : Bool}
    (appended : Store.Appends 0 (ofSelect base dialect oracle).store store (.blank count)) :
    store.clause? 0 = .ok none := by
  have unfolds := appended.unfolds (formed_ofSelect base dialect oracle).closed (.intro trivial .nil)
  rcases unfolds.clause with read | ⟨_, deep⟩ | ⟨_, settled⟩
  · rw [read]
    exact congrArg Except.ok (Forest.clause_eq_none.mpr (Forest.hollow_blank count))
  · have low : Forest.height ([] ++ Forest.blank count) ≤ 2 := Forest.height_blank count
    have size : 1 ≤ store.groups.length := appended.size
    have limit : 2 ≤ stepLimit / 3 ∧ 2 ≤ stepLimit / 1 := by decide
    simp only [Store.depth] at deep
    omega
  · exact (settled (Forest.each_blank _ count)).elim

/-- Such a query selects what its base does. -/
theorem Bare.select (bare : query.Bare base) : query.select = .ok base := by
  obtain ⟨dialect, oracle, store, count, appended, rfl⟩ := bare
  have kept : { ofSelect base dialect oracle with store := store }.condition = .ok base.filter := by
    change (do return Clause.filter? base.filter (← store.clause? 0)) = _
    rw [clause_blank appended]
    rfl
  rw [Query.select, kept]
  change Except.ok { base with
    items := base.items ++ [], joins := base.joins ++ [], sorts := base.sorts ++ [],
    offset := none.or base.offset, limit := none.or base.limit } = _
  rw [List.append_nil, List.append_nil, List.append_nil, Option.none_or, Option.none_or]
  cases base
  rfl

end Query

theorem Refresh.Untouched.bare {before after : Refresh} {base : Select} (untouched : Untouched before after)
    (bare : before.query.Bare base) : after.query.Bare base := by
  obtain ⟨dialect, oracle, store, count, appended, same⟩ := bare
  obtain ⟨more, grown⟩ := untouched.store
  rw [same] at grown
  refine ⟨dialect, oracle, after.query.store, count + more, ?_, ?_⟩
  · rw [← Forest.blank_append]
    exact appended.trans (Query.formed_ofSelect base dialect oracle).root grown
  · rw [untouched.rest, same]

end DataGrid
