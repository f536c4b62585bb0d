import DataGrid.Proofs.FilterPasses
import DataGrid.Proofs.SortTexts

/-! What ordering leaves as it is. The conditions of a query and its window stay, and one sort term is added, or none. Of
a column that is not to be ordered nothing is added at all; tables are joined only for a column behind a relation path
that has no override. -/

namespace DataGrid

open Sql

namespace Query

variable {before between after : Query}

/-- Whether a query differs in its joins and its select list only. -/
def OnlyJoins (before after : Query) : Prop :=
  after = { before with joins := after.joins, joined := after.joined, items := after.items }

theorem OnlyJoins.trans (one : OnlyJoins before between) (other : OnlyJoins between after) : OnlyJoins before after := by
  rw [OnlyJoins] at one other ⊢
  rw [one] at other
  exact other

theorem leftJoin_onlyJoins (query : Query) (target : TableName) (on : Cond) :
    OnlyJoins query (query.leftJoin target on).2 := by
  unfold leftJoin
  split <;> rfl

theorem joinRelation_onlyJoins (query : Query) (column : String) (relation : Relation) :
    OnlyJoins query (query.joinRelation column relation) := by
  cases relation with
  | belongsTo | hasMany | polymorphic => exact leftJoin_onlyJoins ..
  | belongsToMany table pivot parentKey pivotParentKey pivotRelatedKey relatedKey =>
    have first := query.leftJoin_onlyJoins ⟨pivot, none⟩ (joinCondition query.adapter pivotParentKey parentKey none)
    have named (query : Query) : OnlyJoins query (query.addColumn (table ++ "." ++ column)) := rfl
    exact (first.trans (named _)).trans (leftJoin_onlyJoins ..)

theorem joinPath_onlyJoins {registry : Registry} {path column name : String}
    (reached : before.joinPath registry path column = .ok (name, after)) : OnlyJoins before after := by
  obtain ⟨relations, walked, same⟩ := Except.bind_ok reached
  cases same
  clear reached walked
  induction relations generalizing before with
  | nil => rfl
  | cons relation rest ih => exact (before.joinRelation_onlyJoins column relation).trans ih

theorem orderByRaw_appends {sql bindings : Value} (ordered : before.orderByRaw sql bindings = .ok after) :
    ∃ term, after = before.orderBy term := by
  obtain ⟨places, _, ordered⟩ := Except.bind_ok ordered
  cases places with
  | true =>
    obtain ⟨content, _, same⟩ := Except.bind_ok ordered
    cases same
    exact ⟨_, rfl⟩
  | false =>
    cases sql <;> cases ordered <;> exact ⟨_, rfl⟩

end Query

/-- An override that names an order adds one sort term. -/
theorem NamedOverride.applyToQuery_appends {override : NamedOverride} {column keyword : String} {before after : Query}
    (orders : override.operation.isOrder = true) (applied : override.applyToQuery column keyword before = .ok after) :
    ∃ term, after = before.orderBy term := by
  obtain ⟨_, _, applied⟩ := Except.bind_ok applied
  cases named : override.operation with
  | orderBy =>
    rw [named] at applied
    cases applied
    exact ⟨_, rfl⟩
  | orderByRaw =>
    rw [named] at applied
    obtain ⟨⟨answer, query⟩, called, same⟩ := Except.bind_ok applied
    cases same
    obtain ⟨_, _, called⟩ := Except.bind_ok called
    obtain ⟨query, ordered, same⟩ := Except.bind_ok called
    cases same
    exact Query.orderByRaw_appends ordered
  | _ =>
    rw [named] at orders
    cases orders

namespace Request

variable {request : Request}

/-- A request asks for no order without a sort field, or when the first column of its name is not orderable. -/
theorem orderTerm?_none (asked : request.orderTerm? = .ok none) : ∃ sorting, request.sorting = .ok sorting ∧
    (sorting.column = "" ∨ ∃ columns column, request.columns = .ok columns ∧
      columns.find? (fun column => column.name == sorting.column) = some column ∧ column.orderable = false) := by
  obtain ⟨sorting, read, asked⟩ := Except.bind_ok asked
  refine ⟨sorting, read, ?_⟩
  split at asked
  · next empty => exact .inl (beq_iff_eq.mp empty)
  · obtain ⟨columns, listed, asked⟩ := Except.bind_ok asked
    split at asked
    · next column found =>
      split at asked
      · cases asked
      · next unorderable => exact .inr ⟨columns, column, listed, found, by simpa using unorderable⟩
    · cases asked

theorem orderTerm?_some {term : OrderTerm} (asked : request.orderTerm? = .ok (some term)) :
    ∃ sorting, request.sorting = .ok sorting ∧ term.column = sorting.column ∧ sorting.column ≠ "" ∧
      ∀ columns column, request.columns = .ok columns →
        columns.find? (fun column => column.name == sorting.column) = some column → column.orderable = true := by
  obtain ⟨sorting, read, asked⟩ := Except.bind_ok asked
  split at asked
  · cases asked
  · next named =>
    have named : sorting.column ≠ "" := by simpa using named
    obtain ⟨columns, listed, asked⟩ := Except.bind_ok asked
    split at asked
    · next column found =>
      split at asked
      · next orderable =>
        cases asked
        refine ⟨sorting, read, rfl, named, fun columns' column' listed' found' => ?_⟩
        cases listed.symm.trans listed'
        cases found.symm.trans found'
        exact orderable
      · cases asked
    · next missing =>
      cases asked
      refine ⟨sorting, read, rfl, named, fun columns' column' listed' found' => ?_⟩
      cases listed.symm.trans listed'
      cases missing.symm.trans found'

end Request

namespace RowOrder

/-- Whether every override of a column names an order. -/
def NamesOrders (order : RowOrder) : Prop :=
  ∀ column override, order.overrides.lookup column = some override →
    ∃ named, override = .named named ∧ named.operation.isOrder = true

/-- When nothing is ordered: there is no sort field, the first column of its name is not orderable, or it has no override
and is excluded or behind polymorphic relations only. -/
inductive Skips (order : RowOrder) (query : Query) : Prop where
  | unasked {sorting} (read : order.request.sorting = .ok sorting) (empty : sorting.column = "")
  | unorderable {sorting columns column} (read : order.request.sorting = .ok sorting)
    (listed : order.request.columns = .ok columns)
    (first : columns.find? (fun column => column.name == sorting.column) = some column)
    (unorderable : column.orderable = false)
  | excluded {sorting} (read : order.request.sorting = .ok sorting)
    (free : order.overrides.lookup sorting.column = none) (excluded : order.excludes sorting.column = true)
  | polymorphic {sorting path name relations} (read : order.request.sorting = .ok sorting)
    (free : order.overrides.lookup sorting.column = none)
    (split : order.paths.split? sorting.column = some (path, name))
    (walked : order.registry.walk query.mainTable? path = .ok relations)
    (every : ∀ relation ∈ relations, relation.isPolymorphic = true)

/-- A query to which one sort term is added: by the override of the sort field, under its own name, or behind the joins
of its relation path. -/
inductive Appends (order : RowOrder) (before : Query) : Query → Prop where
  | override {sorting named} (term : SortTerm) (read : order.request.sorting = .ok sorting)
    (found : order.overrides.lookup sorting.column = some (.named named)) : Appends order before (before.orderBy term)
  | column {sorting} (term : SortTerm) (read : order.request.sorting = .ok sorting)
    (free : order.overrides.lookup sorting.column = none) (bare : order.paths.split? sorting.column = none) :
    Appends order before (before.orderBy term)
  | path {sorting path name reached joined} (term : SortTerm) (read : order.request.sorting = .ok sorting)
    (free : order.overrides.lookup sorting.column = none)
    (split : order.paths.split? sorting.column = some (path, name))
    (joins : before.joinPath order.registry path name = .ok (reached, joined)) :
    Appends order before (joined.orderBy term)

variable {order : RowOrder} {before after : Query}

/-- What is asked for in a request is skipped only when it has no override, for being excluded or for its path. -/
theorem Skips.of_term {term : OrderTerm} (asked : order.request.orderTerm? = .ok (some term))
    (skips : order.Skips before) : order.overrides.lookup term.column = none ∧
      (order.excludes term.column = true ∨ ∃ path name relations,
        order.paths.split? term.column = some (path, name) ∧
        order.registry.walk before.mainTable? path = .ok relations ∧
        ∀ relation ∈ relations, relation.isPolymorphic = true) := by
  obtain ⟨sorting, read, same, named, orderable⟩ := Request.orderTerm?_some asked
  rw [same]
  cases skips with
  | unasked read' empty =>
    cases read.symm.trans read'
    exact absurd empty named
  | unorderable read' listed first unorderable =>
    cases read.symm.trans read'
    cases (orderable _ _ listed first).symm.trans unorderable
  | excluded read' free excluded =>
    cases read.symm.trans read'
    exact ⟨free, .inl excluded⟩
  | polymorphic read' free split walked every =>
    cases read.symm.trans read'
    exact ⟨free, .inr ⟨_, _, _, split, walked, every⟩⟩

theorem addTerm_ok {config : Config} {name : String} {term : OrderTerm}
    (ran : addTerm config name term before = (.ok (), after)) : ∃ sql, after = before.orderBy (.text sql) := by
  rw [addTerm_eq] at ran
  split at ran
  · cases ran
    exact ⟨_, rfl⟩
  · cases ran

/-- A path that can be walked is not ordered along when all its relations are polymorphic, and otherwise joined. -/
theorem addPathTerm_ok {path name : String} {term : OrderTerm}
    (ran : order.addPathTerm path name term before = (.ok (), after)) :
    ∃ relations, order.registry.walk before.mainTable? path = .ok relations ∧
      (((∀ relation ∈ relations, relation.isPolymorphic = true) ∧ after = before) ∨
        ((¬∀ relation ∈ relations, relation.isPolymorphic = true) ∧ ∃ reached joined sql,
          before.joinPath order.registry path name = .ok (reached, joined) ∧ after = joined.orderBy (.text sql))) := by
  obtain ⟨_, _, read, ran⟩ := Action.bind_ok ran
  cases read
  obtain ⟨orderable, _, looked, ran⟩ := Action.bind_ok ran
  obtain ⟨asked, rfl⟩ := Action.lift_ok looked
  obtain ⟨relations, walked, same⟩ := Except.bind_ok asked
  refine ⟨relations, walked, ?_⟩
  cases any : relations.any fun relation => !relation.isPolymorphic with
  | false =>
    rw [any] at same
    cases same
    cases ran
    exact .inl ⟨by simpa using any, rfl⟩
  | true =>
    rw [any] at same
    cases same
    obtain ⟨⟨reached, joined⟩, _, walks, ran⟩ := Action.bind_ok ran
    obtain ⟨joins, rfl⟩ := Action.lift_ok walks
    obtain ⟨_, _, kept, ran⟩ := Action.bind_ok ran
    cases kept
    obtain ⟨sql, rfl⟩ := addTerm_ok ran
    exact .inr ⟨by simpa using any, reached, joined, sql, joins, rfl⟩

/-- An order that comes through skips what it is asked for and changes nothing, or adds one term. -/
theorem run_cases (unscripted : order.script = none) (names : order.NamesOrders)
    (ran : order.run before = (.ok (), after)) :
    (order.Skips before ∧ after = before) ∨ (¬order.Skips before ∧ order.Appends before after) := by
  rw [run, unscripted] at ran
  obtain ⟨wanted, _, looked, ran⟩ := Action.bind_ok ran
  obtain ⟨asked, rfl⟩ := Action.lift_ok looked
  cases wanted with
  | none =>
    cases ran
    obtain ⟨sorting, read, empty | ⟨columns, column, listed, first, unorderable⟩⟩ := Request.orderTerm?_none asked
    · exact .inl ⟨.unasked read empty, rfl⟩
    · exact .inl ⟨.unorderable read listed first unorderable, rfl⟩
  | some term =>
    obtain ⟨sorting, read, same, _, _⟩ := Request.orderTerm?_some asked
    dsimp only at ran
    unfold addRequested at ran
    cases found : order.overrides.lookup term.column with
    | some override =>
      obtain ⟨named, rfl, orders⟩ := names _ _ found
      rw [found] at ran
      obtain ⟨_, _, current, ran⟩ := Action.bind_ok ran
      cases current
      obtain ⟨_, _, stepped, ran⟩ := Action.bind_ok ran
      obtain ⟨applied, rfl⟩ := Action.lift_ok stepped
      cases ran
      obtain ⟨sorted, rfl⟩ := named.applyToQuery_appends orders applied
      refine .inr ⟨fun skips => ?_, .override sorted read (same ▸ found)⟩
      cases found.symm.trans (skips.of_term asked).1
    | none =>
      rw [found] at ran
      cases excluded : order.excludes term.column with
      | true =>
        rw [excluded] at ran
        cases ran
        exact .inl ⟨.excluded read (same ▸ found) (same ▸ excluded), rfl⟩
      | false =>
        rw [excluded] at ran
        dsimp only [Bool.not_false, if_true] at ran
        cases split : order.paths.split? term.column with
        | none =>
          rw [split] at ran
          obtain ⟨sql, rfl⟩ := addTerm_ok ran
          refine .inr ⟨fun skips => ?_, .column _ read (same ▸ found) (same ▸ split)⟩
          rcases (skips.of_term asked).2 with included | ⟨_, _, _, along, _⟩
          · cases excluded.symm.trans included
          · cases split.symm.trans along
        | some along =>
          obtain ⟨path, name⟩ := along
          rw [split] at ran
          obtain ⟨relations, walked, ⟨every, rfl⟩ | ⟨other, reached, joined, sql, joins, rfl⟩⟩ := addPathTerm_ok ran
          · exact .inl ⟨.polymorphic read (same ▸ found) (same ▸ split) walked every, rfl⟩
          · refine .inr ⟨fun skips => ?_, .path _ read (same ▸ found) (same ▸ split) joins⟩
            rcases (skips.of_term asked).2 with included | ⟨_, _, _, along, walked', every⟩
            · cases excluded.symm.trans included
            · cases split.symm.trans along
              cases walked.symm.trans walked'
              exact other every

end RowOrder

namespace RowOrder.Appends

variable {order : RowOrder} {before after : Query}

theorem sorts (appends : order.Appends before after) : ∃ term, after.sorts = before.sorts ++ [term] := by
  cases appends with
  | override term _ _ | column term _ _ _ => exact ⟨term, rfl⟩
  | path term _ _ _ joins => exact ⟨term, congrArg (· ++ [term]) (Query.joinPath_sorts joins)⟩

theorem frame (appends : order.Appends before after) : after =
    { before with joins := after.joins, joined := after.joined, items := after.items, sorts := after.sorts } := by
  cases appends with
  | override term _ _ | column term _ _ _ => rfl
  | path term _ _ _ joins =>
    have only := Query.joinPath_onlyJoins joins
    rw [Query.OnlyJoins] at only
    rw [only]
    rfl

end RowOrder.Appends

namespace Refresh

variable {before after : Refresh}

theorem orderRows_ok (ran : orderRows before = (.ok (), after)) :
    before.rowOrder.run before.query = (.ok (), after.query) := by
  obtain ⟨_, _, current, ran⟩ := Action.bind_ok ran
  cases current
  obtain ⟨_, _, stepped, noted⟩ := Action.bind_ok ran
  obtain ⟨query, ordered, rfl⟩ := Action.on_ok stepped
  obtain ⟨log, rfl⟩ := note_ok noted
  exact ordered

/-- An order that comes through, with no script in its place and no override that names anything but an order, keeps the
conditions and the window of the query. Where there is nothing to be ordered the query stays as it was, and otherwise
one term is added to its order. Joins and select list grow for a sort field without an override only, whose relation
path is declared. -/
theorem orderRows_frame (unscripted : before.orderScript = none) (names : before.rowOrder.NamesOrders)
    (ran : orderRows before = (.ok (), after)) :
    after.query = { before.query with
      joins := after.query.joins, joined := after.query.joined, items := after.query.items,
      sorts := after.query.sorts } ∧
    (before.rowOrder.Skips before.query → after.query = before.query) ∧
    (¬before.rowOrder.Skips before.query → before.rowOrder.Appends before.query after.query ∧
      ∃ term, after.query.sorts = before.query.sorts ++ [term]) ∧
    ∀ sorting, before.request.sorting = .ok sorting →
      (before.orders.lookup sorting.column).isSome = true ∨ before.paths.split? sorting.column = none →
      after.query.joins = before.query.joins ∧ after.query.joined = before.query.joined ∧
        after.query.items = before.query.items := by
  rcases RowOrder.run_cases unscripted names (orderRows_ok ran) with ⟨skips, same⟩ | ⟨asks, appends⟩
  · rw [same]
    exact ⟨rfl, fun _ => rfl, fun asks => absurd skips asks, fun _ _ _ => ⟨rfl, rfl, rfl⟩⟩
  · refine ⟨appends.frame, fun skips => absurd skips asks, fun _ => ⟨appends, appends.sorts⟩, ?_⟩
    intro sorting read apart
    generalize after.query = query at appends
    cases appends with
    | override | column => exact ⟨rfl, rfl, rfl⟩
    | path term read' free split joins =>
      cases read.symm.trans read'
      rcases apart with given | bare
      · rw [show before.orders.lookup sorting.column = none from free] at given
        cases given
      · cases bare.symm.trans split

/-- An order along a relation, next to a column with an order of its own. -/
private def byAuthor : Refresh where
  request := ⟨.object [("sort", .object [("sortBy", .text "author.name"), ("descending", .bool true)])]⟩
  config := {}
  query := .ofSelect { Select.empty with source := some (.table ⟨"posts", none⟩) } .sqlite false
  registry := ⟨[("posts", [("author", .belongsTo "users" "posts.user_id" "users.id")])]⟩
  paths := ["author"]
  orders := [("title", .named ⟨.orderByRaw, [.text "lower(title) $1", .list []]⟩)]

private theorem byAuthor_namesOrders : byAuthor.rowOrder.NamesOrders := by
  intro column override found
  change [("title", _)].lookup column = some override at found
  rw [List.lookup_cons] at found
  split at found
  · cases found
    exact ⟨_, rfl, rfl⟩
  · cases found

theorem orderRows_frame_author :
    byAuthor.orderScript = none ∧ byAuthor.rowOrder.NamesOrders ∧ ¬byAuthor.rowOrder.Skips byAuthor.query ∧
      ∃ after, orderRows byAuthor = (.ok (), after) ∧ after.query.store = byAuthor.query.store ∧
        after.query.joined = ["users"] ∧ after.query.sorts = [.text "users.name desc"] := by
  have done : (orderRows byAuthor).1.isOk = true := by decide +kernel
  have sorts : (orderRows byAuthor).2.query.sorts = [.text "users.name desc"] := by rfl
  obtain ⟨_, ran⟩ := Action.ran_of_isOk done
  obtain ⟨frame, skipped, _, _⟩ := orderRows_frame rfl byAuthor_namesOrders ran
  refine ⟨rfl, byAuthor_namesOrders, fun skips => ?_, _, ran, by rw [frame], by rfl, sorts⟩
  have unsorted : (orderRows byAuthor).2.query.sorts = [] := by rw [skipped skips]; rfl
  cases sorts.symm.trans unsorted

end Refresh

end DataGrid
