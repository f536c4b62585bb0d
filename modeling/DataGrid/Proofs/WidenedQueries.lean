import DataGrid.Refresh.Pass
import DataGrid.Proofs.JoinedRelations
import DataGrid.Proofs.PageWindows
import DataGrid.Proofs.UntouchedPasses
import DataGrid.Proofs.SingleJoins

/-! What search and order do to the `FROM` of a query where no script of the caller takes part. They add outer joins and
entries of the select list, and leave the window alone; so the statement is that of the start with more joins. -/

namespace DataGrid

open Sql

namespace Query

/-- A query with outer joins behind its own and columns behind its entries. -/
structure Widens (start query : Query) : Prop where
  base : query.base = start.base
  root : query.root = start.root
  offset : query.offset = start.offset
  limit : query.limit = start.limit
  items : ∃ columns : List String, query.items = start.items ++ columns.map fun sql => some (.text sql)
  joins : ∃ added, query.joins = start.joins ++ added ∧ ∀ join ∈ added, join.outer = true

/-- What the statement of a query is made of. -/
structure SelectParts (query : Query) (items : List Item) (filter : Option Cond) (offset limit : Option Int) :
    Prop where
  joinable : (!query.joins.isEmpty && query.base.source.isNone) = false
  items : query.items.mapM (fun item => item.elim (.error .badOperand) .ok) = (.ok items : Except Error (List Item))
  condition : query.condition = .ok filter
  offset : rowNumber query.offset = .ok offset
  limit : rowNumber query.limit = .ok limit

def assemble (query : Query) (items : List Item) (filter : Option Cond) (offset limit : Option Int) : Select :=
  { query.base with
    items := query.base.items ++ items
    joins := query.base.joins ++ query.joins
    filter := filter
    sorts := query.base.sorts ++ query.sorts
    offset := offset.or query.base.offset
    limit := limit.or query.base.limit }

theorem select_of_parts {query : Query} {items : List Item} {filter : Option Cond} {offset limit : Option Int}
    (parts : query.SelectParts items filter offset limit) :
    query.select = .ok (query.assemble items filter offset limit) := by
  rw [Query.select, parts.joinable, parts.items, parts.condition, parts.offset, parts.limit]
  rfl

theorem select_ok {query : Query} {statement : Select} (made : query.select = .ok statement) :
    ∃ items filter offset limit, query.SelectParts items filter offset limit ∧
      statement = query.assemble items filter offset limit := by
  unfold Query.select at made
  dsimp only at made
  split at made
  · cases made
  · next joinable =>
    obtain ⟨items, listed, made⟩ := Except.bind_ok made
    obtain ⟨filter, passed, made⟩ := Except.bind_ok made
    obtain ⟨offset, start, made⟩ := Except.bind_ok made
    obtain ⟨limit, bound, made⟩ := Except.bind_ok made
    cases made
    exact ⟨items, filter, offset, limit, ⟨Bool.eq_false_iff.mpr joinable, listed, passed, start, bound⟩, rfl⟩

theorem select_from {query : Query} {statement : Select} (made : query.select = .ok statement) :
    statement.source = query.base.source ∧ statement.joins = query.base.joins ++ query.joins := by
  obtain ⟨_, _, _, _, _, rfl⟩ := select_ok made
  exact ⟨rfl, rfl⟩

/-- Where a query sets no window, a window that is set is all that changes in its statement. -/
theorem select_windowed {query : Query} {offset limit : Value} {fetched : Select} (unbound : query.offset = .null)
    (unlimited : query.limit = .null) (made : { query with offset := offset, limit := limit }.select = .ok fetched) :
    ∃ statement, query.select = .ok statement ∧
      ∃ offset limit, fetched = { statement with offset := offset, limit := limit } := by
  obtain ⟨items, filter, start, bound, parts, rfl⟩ := select_ok made
  refine ⟨query.assemble items filter none none, select_of_parts ?_, _, _, rfl⟩
  exact ⟨parts.joinable, parts.items, parts.condition, unbound ▸ rfl, unlimited ▸ rfl⟩

namespace Widens

variable {start query after : Query}

theorem refl (query : Query) : Widens query query :=
  ⟨rfl, rfl, rfl, rfl, ⟨[], (List.append_nil _).symm⟩, [], (List.append_nil _).symm, List.forall_mem_nil _⟩

theorem withStore (widens : Widens start query) (store : Store) : Widens start { query with store := store } :=
  ⟨widens.base, widens.root, widens.offset, widens.limit, widens.items, widens.joins⟩

theorem orderBy (widens : Widens start query) (term : SortTerm) : Widens start (query.orderBy term) :=
  ⟨widens.base, widens.root, widens.offset, widens.limit, widens.items, widens.joins⟩

theorem addColumn (widens : Widens start query) (column : String) : Widens start (query.addColumn column) := by
  obtain ⟨columns, same⟩ := widens.items
  refine ⟨widens.base, widens.root, widens.offset, widens.limit, ?_, widens.joins⟩
  exact ⟨columns ++ [query.adapter.quoteIdentifier column], by simp [Query.addColumn, addItem, same]⟩

theorem leftJoin (widens : Widens start query) (target : TableName) (on : Cond) :
    Widens start (query.leftJoin target on).2 := by
  unfold Query.leftJoin
  split
  · exact widens
  · obtain ⟨added, same, outer⟩ := widens.joins
    refine ⟨widens.base, widens.root, widens.offset, widens.limit, widens.items, added ++ [⟨true, target, on⟩], ?_, ?_⟩
    · simp [same]
    · exact List.forall_mem_append.mpr ⟨outer, List.forall_mem_singleton.mpr rfl⟩

theorem joinRelation (widens : Widens start query) (column : String) (relation : Relation) :
    Widens start (query.joinRelation column relation) := by
  cases relation with
  | belongsToMany => exact ((widens.leftJoin _ _).addColumn _).leftJoin _ _
  | _ => exact widens.leftJoin _ _

theorem joinRelations (widens : Widens start query) (column : String) (relations : List Relation) :
    Widens start (relations.foldl (fun query relation => query.joinRelation column relation) query) := by
  induction relations generalizing query with
  | nil => exact widens
  | cons relation rest ih => exact ih (widens.joinRelation column relation)

theorem joinPath (widens : Widens start query) {registry : Registry} {path column name : String}
    (reached : query.joinPath registry path column = .ok (name, after)) : Widens start after := by
  obtain ⟨relations, _, same⟩ := Except.bind_ok reached
  cases same
  exact widens.joinRelations column relations

private theorem texts_listed (columns : List String) :
    (columns.map fun sql => some (Item.text sql)).mapM (fun item => item.elim (.error .badOperand) .ok) =
      (.ok (columns.map .text) : Except Error (List Item)) := by
  induction columns with
  | nil => rfl
  | cons column rest ih =>
    rw [List.map_cons, List.mapM_cons, ih]
    rfl

/-- The statement of a query with more joins is that of the query at the start with more joins. -/
theorem select {first second : Select} (widens : Widens start query) (made : start.select = .ok first)
    (made' : query.select = .ok second) : ∃ added, first.Widens second added := by
  obtain ⟨items, filter, offset, limit, parts, rfl⟩ := select_ok made
  obtain ⟨items', filter', offset', limit', parts', rfl⟩ := select_ok made'
  obtain ⟨columns, more⟩ := widens.items
  obtain ⟨added, joined, outer⟩ := widens.joins
  have start' := parts'.offset
  have bound' := parts'.limit
  have listed := parts'.items
  rw [widens.offset, parts.offset, Except.ok.injEq] at start'
  rw [widens.limit, parts.limit, Except.ok.injEq] at bound'
  rw [more, List.mapM_append, parts.items, Except.ok_bind, texts_listed, Except.ok_bind] at listed
  obtain rfl := Except.ok.inj listed
  exact ⟨added, {
    distinct := by rw [assemble, assemble, widens.base]
    source := by rw [assemble, assemble, widens.base]
    joins := by rw [assemble, assemble, widens.base, joined, List.append_assoc]
    outer := outer
    items := ⟨columns.map .text, by rw [assemble, assemble, widens.base, List.append_assoc], by simp⟩
    groups := by rw [assemble, assemble, widens.base]
    havingOver := by rw [assemble, assemble, widens.base]
    offset := by rw [assemble, assemble, widens.base, start']
    limit := by rw [assemble, assemble, widens.base, bound'] }⟩

/-- With the same groups, a query has a statement as well, unless it joins tables to nothing. -/
theorem select_of_joinable {first : Select} (widens : Widens start query) (made : start.select = .ok first)
    (store : query.store = start.store) (joinable : query.joins = [] ∨ query.base.source.isSome = true) :
    ∃ second, query.select = .ok second := by
  obtain ⟨items, filter, offset, limit, parts, rfl⟩ := select_ok made
  obtain ⟨columns, more⟩ := widens.items
  have condition : query.condition = start.condition := by
    rw [Query.condition, Query.condition, widens.base, widens.root, store]
  suffices parts' : query.SelectParts (items ++ columns.map .text) filter offset limit from ⟨_, select_of_parts parts'⟩
  refine ⟨?_, ?_, condition.trans parts.condition, ?_, ?_⟩
  · rcases joinable with none | some
    · rw [none]
      rfl
    · rw [← Option.not_isSome, some]
      exact Bool.and_false _
  · rw [more, List.mapM_append, parts.items, Except.ok_bind, texts_listed]
    rfl
  · rw [widens.offset]
    exact parts.offset
  · rw [widens.limit]
    exact parts.limit

end Widens

end Query

namespace Refresh

/-- Whether no script of the caller and no override of an order is set. These may do anything to a query. -/
def Unscripted (refresh : Refresh) : Prop :=
  refresh.filterScript = none ∧ refresh.orderScript = none ∧ refresh.orders = []

/-- A refresh without scripts, over a registry, whose query is of a kind. -/
def UnscriptedWith (registry : Registry) (holds : Query → Prop) (refresh : Refresh) : Prop :=
  (refresh.Unscripted ∧ refresh.registry = registry) ∧ holds refresh.query

section Passes
variable {registry : Registry} {holds : Query → Prop}

theorem note_unscripted (pass : String) : Action.Stays (UnscriptedWith registry holds) (note pass) :=
  note_stays (fun _ _ held => held) pass

theorem countFiltered_unscripted : Action.Stays (UnscriptedWith registry holds) countFiltered :=
  countFiltered_stays (fun _ _ held => held) (fun _ _ held => held) fun _ _ held => held

theorem runSearch_unscripted {pass : Search → Action Searching Unit}
    (stays : ∀ search, search.registry = registry →
      Action.Stays (fun searching => holds searching.query) (pass search)) :
    Action.Stays (UnscriptedWith registry holds) (runSearch pass) :=
  runSearch_stays (fun _ _ held => held) holds (fun _ held => held.2) (fun _ _ held kept => ⟨held.1, kept⟩)
    fun _ held => stays _ held.1.2

section Filters
variable (stored : ∀ query store, holds query → holds { query with store := store })

include stored

theorem treeFilter_unscripted : Action.Stays (UnscriptedWith registry holds) treeFilter :=
  treeFilter_stays (fun _ _ held => held) (fun _ _ held => held) fun _ _ held => ⟨held.1, stored _ _ held.2⟩

/-- The passes that filter keep what joining along paths keeps, where no script takes part. -/
theorem filterRows_unscripted
    (reached : ∀ path query column name after, holds query →
      Query.joinPath query registry path column = .ok (name, after) → holds after) :
    Action.Stays (UnscriptedWith registry holds) filterRows := by
  have search : Action.Stays (UnscriptedWith registry holds) globalSearch :=
    (runSearch_unscripted fun _ _ => Search.runGlobal_stays stored).bind fun _ => note_unscripted _
  have script : Action.Stays (UnscriptedWith registry holds) scriptFilter := by
    unfold scriptFilter
    refine .read fun refresh held => ?_
    rw [held.1.1.1]
    exact .pure _
  have own : Action.Stays (UnscriptedWith registry holds) columnSearch := by
    refine (runSearch_unscripted fun search same => ?_).bind fun _ => note_unscripted _
    exact Search.runOwn_stays stored fun path _ => same ▸ reached path
  have passes : Action.Stays (UnscriptedWith registry holds) (filterPasses >>= fun _ => countFiltered) :=
    ((searchPass_stays search).bind fun _ => script.bind fun _ => own.bind fun _ => treeFilter_unscripted stored).bind
      fun _ => countFiltered_unscripted
  intro before held
  rw [filterRows_passes]
  exact passes before held

end Filters

/-- The order of the rows keeps what its term and its joins keep, where no script takes part. -/
theorem orderRows_unscripted (ordered : ∀ query term, holds query → holds (query.orderBy term))
    (reached : ∀ path query column name after, holds query →
      Query.joinPath query registry path column = .ok (name, after) → holds after) :
    Action.Stays (UnscriptedWith registry holds) orderRows := by
  unfold orderRows
  refine .read fun refresh held => ?_
  obtain ⟨⟨_, script, none⟩, registered⟩ := held.1
  have same : refresh.rowOrder.registry = registry := registered
  have order : Action.Stays holds refresh.rowOrder.run := by
    refine RowOrder.run_stays ordered (fun path _ => same ▸ reached path) (fun _ runs => ?_)
      fun column override found => ?_
    · cases runs with
      | whole own => cases script.symm.trans own
      | column own descending =>
        change refresh.orders.lookup _ = _ at own
        rw [none] at own
        cases own
    · change refresh.orders.lookup column = _ at found
      rw [none] at found
      cases found
  refine Action.Stays.bind (.onPart order ?_ ?_) fun _ => note_unscripted _
  · exact fun _ held => held.2
  · exact fun _ _ held kept => ⟨held.1, kept⟩

end Passes

variable {before after : Refresh} {result : Unit}

theorem filterRows_widens (unscripted : before.Unscripted) (ran : filterRows before = (.ok result, after)) :
    (after.Unscripted ∧ after.registry = before.registry) ∧ before.query.Widens after.query :=
  (filterRows_unscripted (fun _ store widens => widens.withStore store)
    fun _ _ _ _ _ widens found => widens.joinPath found).after ⟨⟨unscripted, rfl⟩, .refl _⟩ ran

theorem orderRows_widens (unscripted : before.Unscripted) (ran : orderRows before = (.ok result, after)) :
    before.query.Widens after.query ∧ after.query.store = before.query.store := by
  have stays : Action.Stays (UnscriptedWith before.registry fun query =>
      before.query.Widens query ∧ query.store = before.query.store) orderRows :=
    orderRows_unscripted (fun _ term held => ⟨held.1.orderBy term, held.2⟩)
      fun _ _ _ _ _ held found => ⟨held.1.joinPath found, (Query.joinPath_alike found).store.trans held.2⟩
  exact (stays.after ⟨⟨unscripted, rfl⟩, .refl _, rfl⟩ ran).2

variable {base kept final : Select} {parts : List Forest}

/-- The statements of a refresh after its rows are filtered and after they are ordered. -/
def Stages (before : Refresh) (kept final : Select) : Prop :=
  ∃ filtered ordered, filterRows before = (.ok (), filtered) ∧ orderRows filtered = (.ok (), ordered) ∧
    filtered.query.select = .ok kept ∧ ordered.query.select = .ok final

theorem pageIfAsked_ok {result : Unit} (ran : pageIfAsked before = (.ok result, after)) :
    ∃ offset limit, after.query = { before.query with offset := offset, limit := limit } := by
  obtain ⟨_, _, read, ran⟩ := Action.bind_ok ran
  cases read
  obtain ⟨asked, _, found, ran⟩ := Action.bind_ok ran
  obtain ⟨_, rfl⟩ := Action.lift_ok found
  cases asked with
  | false =>
    cases ran
    exact ⟨_, _, rfl⟩
  | true =>
    obtain ⟨_, _, set, noted⟩ := Action.bind_ok ran
    obtain ⟨log, rfl⟩ := note_ok noted
    rw [setWindow_eq] at set
    split at set
    · cases set
    · split at set
      · next query paged =>
        cases set
        obtain ⟨sorting, _, paged⟩ := Except.bind_ok paged
        obtain ⟨offset, _, paged⟩ := Except.bind_ok paged
        cases paged
        exact ⟨_, _, rfl⟩
      · cases set

/-- What the passes make of the statement of a base: a search adds to its condition, its joins and its entries, and an
order to its joins and its entries. -/
theorem Stages.widens (stages : before.Stages kept final)
    (start : ∃ dialect oracle, before.query = .ofSelect base dialect oracle) (unscripted : before.Unscripted)
    (planned : before.parts = .ok parts) :
    (∃ added, base.Widens kept added) ∧ (∃ later, kept.Widens final later) ∧ final.filter = kept.filter ∧
      kept.filter = Clause.filter? base.filter (Forest.clause? parts.flatten) := by
  obtain ⟨dialect, oracle, same⟩ := start
  have bare : before.query.Bare base := same ▸ Query.bare_ofSelect base dialect oracle
  have empty : before.query.store.Unfolds (fun _ => True) before.query.root [] := same ▸ .intro trivial .nil
  obtain ⟨filtered, ordered, filters, orders, made, made'⟩ := stages
  obtain ⟨settings, searched⟩ := filterRows_widens unscripted filters
  obtain ⟨sorted, store⟩ := orderRows_widens settings.1 orders
  obtain ⟨_, planned', grown⟩ := filterRows_grows bare.formed filters
  cases planned.symm.trans planned'
  have unfolds := grown.query.store.unfolds bare.formed.closed empty
  rw [List.nil_append, ← searched.root] at unfolds
  have own : filtered.query.base = base := by
    rw [searched.base, same]
    rfl
  refine ⟨searched.select bare.select made, sorted.select made made', ?_⟩
  obtain ⟨_, filter, _, _, held, rfl⟩ := Query.select_ok made
  obtain ⟨_, filter', _, _, held', rfl⟩ := Query.select_ok made'
  have same : ordered.query.condition = filtered.query.condition := by
    rw [Query.condition, Query.condition, sorted.base, sorted.root, store]
  refine ⟨Except.ok.inj (held'.condition.symm.trans (same.trans held.condition)), ?_⟩
  exact own ▸ Query.condition_eq held.condition unfolds

end Refresh

end DataGrid
