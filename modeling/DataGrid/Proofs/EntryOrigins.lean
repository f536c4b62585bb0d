import DataGrid.Proofs.ColumnSearch
import DataGrid.Proofs.CountFrames
import DataGrid.Proofs.SearchSteps

/-! Where the entries of a store come from. Whatever a search finds in its way, also when it fails, an entry that is
there afterwards was there before, or was added for a column of the request: by its override, or by the automatic
search. -/

namespace DataGrid

open Sql

namespace Store

/-- A store that has nothing besides what another one has in the same groups, and entries of one kind. -/
def Gains (before : Store) (kind : Entry → Prop) (after : Store) : Prop :=
  ∀ id, ∀ entry ∈ after.entries id, entry ∈ before.entries id ∨ kind entry.2

variable {before store : Store} {kind : Entry → Prop}

theorem Gains.refl (store : Store) : store.Gains kind store := fun _ _ member => .inl member

theorem Gains.fresh (gains : before.Gains kind store) : before.Gains kind store.fresh.2 := by
  intro id entry member
  rw [entries_fresh] at member
  exact gains id entry member

theorem Gains.add (gains : before.Gains kind store) (id : GroupId) (junction : Junction) {entry : Entry}
    (fits : kind entry) : before.Gains kind (store.add id junction entry) := by
  intro other held member
  rcases mem_add member with there | ⟨_, _, rfl⟩
  · exact gains other held there
  · exact .inr fits

theorem Gains.call (gains : before.Gains kind store) {adapter : Adapter} {id : GroupId} {method : GroupMethod}
    {arguments : List Argument} {grown : Store} (called : store.call adapter id method arguments = .ok grown)
    (fits : ∀ entry word, method.entry adapter arguments = .ok (entry, word) → kind entry) :
    before.Gains kind grown := by
  obtain ⟨⟨entry, word⟩, made, called⟩ := Except.bind_ok called
  obtain ⟨junction, _, same⟩ := Except.bind_ok called
  cases same
  exact gains.add id junction (fits entry word made)

end Store

/-- What a call of a script adds to a group, or to one that it opens there. -/
inductive GroupStep.Adds (adapter : Adapter) : GroupStep → Entry → Prop where
  | call {method : GroupMethod} {arguments : List Argument} {entry : Entry} {word : Value}
      (made : method.entry adapter arguments = .ok (entry, word)) : Adds adapter (.call method arguments) entry
  | nested {junction : Value} {steps : List GroupStep} {step : GroupStep} {entry : Entry} (member : step ∈ steps)
      (adds : Adds adapter step entry) : Adds adapter (.nested junction steps) entry

section Scripts
variable {before : Store} {kind : Entry → Prop} {adapter : Adapter}

mutual

theorem GroupStep.run_gains (groups : ∀ id, kind (.group id)) {store : Store} (gains : before.Gains kind store)
    (id : GroupId) (step : GroupStep) (fits : ∀ entry, step.Adds adapter entry → kind entry) :
    before.Gains kind (step.run adapter id store).2 := by
  match step with
  | .call method arguments =>
    rw [GroupStep.run]
    dsimp only
    split
    · next grown called => exact gains.call called fun entry word made => fits entry (.call made)
    · exact gains
  | .nested junction steps =>
    rw [GroupStep.run]
    dsimp only
    split
    · next inner grown opened =>
      obtain ⟨word, _, same⟩ := Except.bind_ok opened
      cases same
      exact GroupStep.runAll_gains groups (gains.fresh.add id word (groups _)) _ steps fun step member entry adds =>
        fits entry (.nested member adds)
    · exact gains

/-- A script adds nothing but what its calls add, and groups; also when it fails. -/
theorem GroupStep.runAll_gains (groups : ∀ id, kind (.group id)) {store : Store} (gains : before.Gains kind store)
    (id : GroupId) (steps : List GroupStep) (fits : ∀ step ∈ steps, ∀ entry, step.Adds adapter entry → kind entry) :
    before.Gains kind (GroupStep.runAll adapter id steps store).2 := by
  match steps with
  | [] => exact gains
  | step :: rest =>
    have first := GroupStep.run_gains groups gains id step (fits step (.head _))
    rw [GroupStep.runAll]
    dsimp only
    split
    · next grown ran =>
      rw [ran] at first
      exact GroupStep.runAll_gains groups first id rest fun next member => fits next (.tail _ member)
    · next failure grown ran => rwa [ran] at first

end

end Scripts

/-- What an override adds to a group when it is run for a column. -/
inductive Override.Adds (adapter : Adapter) (column keyword : String) (useOr : Bool) : Override GroupStep → Entry → Prop
    where
  | callback {script : String → List GroupStep} {step : GroupStep} {entry : Entry} (member : step ∈ script keyword)
      (adds : step.Adds adapter entry) : Adds adapter column keyword useOr (.callback script) entry
  | named {override : NamedOverride} {method : GroupMethod} {arguments : List Value} {entry : Entry} {word : Value}
      (chosen : NamedOverride.groupCall (override.running useOr)
        (override.arguments (override.running useOr) column keyword) = .ok (method, arguments))
      (made : method.entry adapter (arguments.map .value) = .ok (entry, word)) :
      Adds adapter column keyword useOr (.named override) entry

namespace Search

variable {search : Search} {start : Query} {kind : Entry → Prop}

/-- A search with a query of the same base that has gained nothing but entries of one kind. -/
structure Gained (start : Query) (kind : Entry → Prop) (query : Query) : Prop where
  base : query.base = start.base
  adapter : query.adapter = start.adapter
  store : start.store.Gains kind query.store

theorem Gained.withStore {query : Query} (gained : Gained start kind query) {store : Store}
    (gains : start.store.Gains kind store) : Gained start kind { query with store := store } :=
  ⟨gained.base, gained.adapter, gains⟩

theorem onStore_gains {α : Type} {step : Action Store α}
    (gains : ∀ store, start.store.Gains kind store → start.store.Gains kind (step store).2) :
    Action.Stays (fun searching => Gained start kind searching.query) (Searching.onStore step) :=
  fun _ gained => gained.withStore (gains _ gained.store)

theorem tryStore_gains {change : Store → Except Error Store}
    (gains : ∀ store grown, start.store.Gains kind store → change store = .ok grown → start.store.Gains kind grown) :
    Action.Stays (fun searching => Gained start kind searching.query) (Searching.tryStore change) := by
  unfold Searching.tryStore
  exact .read fun searching gained => .ask fun store changed => .set (gained.withStore (gains _ _ gained.store changed))

theorem addTo_gains (id : GroupId) (junction : Junction) {entry : Entry} (fits : kind entry) :
    Action.Stays (fun searching => Gained start kind searching.query) (Searching.addTo id junction entry) := by
  refine tryStore_gains fun store grown gains added => ?_
  cases added
  exact gains.add id junction fits

/-- Whether a request has a column that can be searched. -/
def Asks (search : Search) (column : Column) : Prop :=
  column.searchable = true ∧ ∃ columns, search.request.columns = .ok columns ∧ column ∈ columns

/-- Where an entry comes from that a search adds: it is a group, the override of a column adds it, or it is the test of
a column that has no override. -/
inductive Origin (search : Search) (adapter : Adapter) (useOr : Bool) (tests : Column → Cond → Prop) :
    Entry → Prop where
  | group (id : GroupId) : Origin search adapter useOr tests (.group id)
  | override {column : Column} {override : Override GroupStep} {keyword : String} {entry : Entry}
      (asked : search.Asks column) (found : search.overrides.lookup column.name = some override)
      (adds : override.Adds adapter column.name keyword useOr entry) : Origin search adapter useOr tests entry
  | test {column : Column} {test : Cond} (asked : search.Asks column)
      (free : search.overrides.lookup column.name = none) (made : tests column test) :
      Origin search adapter useOr tests (.cond test)

theorem addScript_gains {adapter : Adapter} (groups : ∀ id, kind (.group id)) (same : adapter = start.adapter)
    (id : GroupId) (junction : Junction) {script : List GroupStep}
    (fits : ∀ step ∈ script, ∀ entry, step.Adds adapter entry → kind entry) :
    Action.Stays (fun searching => Gained start kind searching.query) (addScript id junction script) := by
  unfold addScript
  refine Action.Stays.bind (onStore_gains fun store gains => gains.fresh) fun scope => .read fun searching gained => ?_
  refine Action.Stays.bind (onStore_gains fun store gains => ?_) fun _ => addTo_gains id junction (groups scope)
  rw [gained.adapter, ← same]
  exact GroupStep.runAll_gains groups gains scope script fits

variable {column : Column}

/-- An override gains what it adds for its column. -/
theorem override_gains (tests : Column → Cond → Prop) (asked : search.Asks column) (useOr : Bool) (id : GroupId)
    (junction : Junction) (keyword : String) {query : Query} (same : query.adapter = start.adapter)
    {override : Override GroupStep} (found : search.overrides.lookup column.name = some override) :
    Action.Stays (fun searching => Gained start (Origin search start.adapter useOr tests) searching.query)
      (match override with
        | .callback script => addScript id junction (script keyword)
        | .named override =>
          Searching.tryStore (override.applyToGroup query.adapter id column.name keyword useOr)) := by
  cases override with
  | callback script =>
    exact addScript_gains .group rfl id junction fun step present entry adds =>
      .override asked found (.callback present adds)
  | named override =>
    refine tryStore_gains fun store grown gains applied => ?_
    obtain ⟨_, _, applied⟩ := Except.bind_ok applied
    obtain ⟨⟨method, arguments⟩, chosen, called⟩ := Except.bind_ok applied
    rw [same] at called
    exact gains.call called fun entry word made => .override asked found (.named chosen made)

/-- The tests that the search over all columns makes. -/
def OverallTest (search : Search) (query : Query) (column : Column) (test : Cond) : Prop :=
  search.excludes column.name = false ∧ ∃ keyword, search.automaticTest query column keyword = .ok test

/-- The tests that the search by the columns' own keywords makes. -/
def OwnTest (search : Search) (query : Query) (column : Column) (test : Cond) : Prop :=
  ∃ name, search.reachedName query column = .ok name ∧ search.ownTest query column name = .ok test

/-- What the search over all columns may gain. -/
abbrev OverallGain (search : Search) (start query : Query) : Prop :=
  Gained start (search.Origin start.adapter true (search.OverallTest start)) query

/-- What the search by the columns' own keywords may gain. -/
abbrev OwnGain (search : Search) (start query : Query) : Prop :=
  Gained start (search.Origin start.adapter false (search.OwnTest start)) query

theorem addAlternative_gains (asked : search.Asks column) (id : GroupId) (keyword : String) :
    Action.Stays (fun searching => search.OverallGain start searching.query)
      (search.addAlternative id keyword column) := by
  unfold addAlternative
  refine .read fun searching gained => ?_
  cases found : search.overrides.lookup column.name with
  | some override =>
    have adds := override_gains (search.OverallTest start) asked true id .or keyword gained.adapter found
    cases override with
    | callback script => exact adds.bind fun _ => markApplied_stays
    | named override =>
      dsimp only
      split
      · exact adds.bind fun _ => markApplied_stays
      · exact .pure _
  | none =>
    dsimp only
    split
    · next kept =>
      refine .ask fun test made => Action.Stays.bind (addTo_gains id .or ?_) fun _ => markApplied_stays
      rw [automaticTest_congr gained.base gained.adapter] at made
      exact .test asked found ⟨by simpa using kept, keyword, made⟩
    · exact .pure _

/-- The search over all columns gains nothing but what it adds for one of them; also when it fails. -/
theorem runGlobal_gains :
    Action.Stays (fun searching => search.OverallGain start searching.query) search.runGlobal := by
  unfold runGlobal
  refine .ask fun word _ => .forM _ fun keyword _ => ?_
  unfold searchAll
  refine .read fun searching _ => Action.Stays.bind (onStore_gains fun store gains => ?_) fun id =>
    .ask fun columns listed => .forM _ fun column member => ?_
  · exact gains.fresh.add _ .and (.group _)
  · obtain ⟨member, searched⟩ := List.mem_filter.mp member
    exact addAlternative_gains ⟨searched, columns, listed, member⟩ id keyword

theorem searchOwn_gains (asked : search.Asks column) :
    Action.Stays (fun searching => search.OwnGain start searching.query) (search.searchOwn column) := by
  unfold searchOwn
  refine .read fun searching own => ?_
  cases found : search.overrides.lookup column.name with
  | some override =>
    have adds := override_gains (search.OwnTest start) asked false searching.query.root .and column.searchValue
      own.adapter found
    cases override with
    | callback script => exact adds.bind fun _ => markApplied_stays
    | named override => exact adds.bind fun _ => markApplied_stays
  | none =>
    refine .ask fun reach reached => ?_
    obtain ⟨name, joined⟩ := reach
    have alike := reach_alike reached
    refine Action.Stays.bind (.modify fun _ gained => ?_) fun _ => .ask fun test made =>
      Action.Stays.bind (addTo_gains _ .and ?_) fun _ => markApplied_stays
    · exact ⟨alike.base.trans own.base, alike.adapter.trans own.adapter, alike.store ▸ own.store⟩
    · have named : search.reachedName searching.query column = .ok name := by
        rw [reachedName, reached]
        rfl
      rw [reachedName_congr own.base] at named
      rw [ownTest_congr (alike.base.trans own.base) (alike.adapter.trans own.adapter)] at made
      exact .test asked found ⟨name, named, made⟩

/-- The search by the columns' own keywords gains nothing but what it adds for one of them; also when it fails. -/
theorem runOwn_gains : Action.Stays (fun searching => search.OwnGain start searching.query) search.runOwn := by
  unfold runOwn
  refine .ask fun columns listed => .forM _ fun column member => ?_
  obtain ⟨member, searched⟩ := List.mem_filter.mp member
  exact searchOwn_gains ⟨(Bool.and_eq_true_iff.mp searched).1, columns, listed, member⟩

end Search

namespace Refresh

/-- A pass that searches gains in the query of a refresh what its search does. -/
private theorem runSearch_gains {refresh : Refresh} {kind : Entry → Prop} {pass : Search → Action Searching Unit}
    (stays : Action.Stays (fun searching => Search.Gained refresh.query kind searching.query) (pass refresh.search))
    (name : String) :
    Search.Gained refresh.query kind
      (Refresh.query (((do runSearch pass; note name) : Action Refresh Unit) refresh).2) := by
  have kept : Action.Stays
      (fun after : Refresh => after.search = refresh.search ∧ Search.Gained refresh.query kind after.query)
      (do runSearch pass; note name) := by
    refine Action.Stays.bind ?_ fun _ => note_stays (fun _ _ held => held) name
    refine runSearch_stays (fun _ _ held => held) (Search.Gained refresh.query kind) (fun _ held => held.2)
      (fun _ _ held gained => ⟨held.1, gained⟩) fun after held => ?_
    rw [held.1]
    exact stays
  exact (kept refresh ⟨rfl, rfl, rfl, .refl _⟩).2

/-- The search over all columns, however it ends, adds entries for columns of the request only. -/
theorem globalSearch_gains (refresh : Refresh) :
    refresh.search.OverallGain refresh.query (globalSearch refresh).2.query :=
  runSearch_gains Search.runGlobal_gains "filtering"

/-- The search by the columns' own keywords, however it ends, adds entries for columns of the request only. -/
theorem columnSearch_gains (refresh : Refresh) :
    refresh.search.OwnGain refresh.query (columnSearch refresh).2.query :=
  runSearch_gains Search.runOwn_gains "column_search"

end Refresh

end DataGrid
