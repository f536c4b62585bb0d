import DataGrid.Refresh.Pass
import DataGrid.Proofs.FilterMeaning
import DataGrid.Proofs.TwinSearches

/-! Two runs side by side: the passes. Refreshes with the same settings, whose requests have paired columns, as many
search words, filter trees of one shape and sort terms that are written alike, keep their queries twins through every
list of passes that both come through. -/

namespace DataGrid

open Sql

variable {like : Likeness} {start : Query} {adapter : Adapter}

/-- Leaves that are both left out, or both kept under one operator and written alike. -/
structure FilterLeaf.Twin (like : Likeness) (adapter : Adapter) (first second : FilterLeaf) : Prop where
  operator : first.operator? = second.operator?
  tests {operator : FilterOperator} {test test' : Atom} (kept : first.operator? = some operator)
    (made : operator.predicate (adapter.column first.field.display) first.value = .ok test)
    (made' : operator.predicate (adapter.column second.field.display) second.value = .ok test') :
    Atom.Twin like adapter.dialect test test'

mutual

/-- Nodes of one shape, with leaves that a relation holds of. -/
inductive FilterNode.Alike (leaves : FilterLeaf → FilterLeaf → Prop) : FilterNode → FilterNode → Prop where
  | leaf {first second} (related : leaves first second) : FilterNode.Alike leaves (.leaf first) (.leaf second)
  | group (logic : Junction) {first second} (children : FilterNode.AllAlike leaves first second) :
      FilterNode.Alike leaves (.group logic first) (.group logic second)

inductive FilterNode.AllAlike (leaves : FilterLeaf → FilterLeaf → Prop) : List FilterNode → List FilterNode → Prop where
  | nil : FilterNode.AllAlike leaves [] []
  | cons {first second others rest} (head : FilterNode.Alike leaves first second)
      (tail : FilterNode.AllAlike leaves others rest) : FilterNode.AllAlike leaves (first :: others) (second :: rest)

end

mutual

theorem FilterNode.Alike.imp {leaves others : FilterLeaf → FilterLeaf → Prop}
    (weaker : ∀ one two, leaves one two → others one two) {first second : FilterNode}
    (nodes : FilterNode.Alike leaves first second) : FilterNode.Alike others first second := by
  match nodes with
  | .leaf related => exact .leaf (weaker _ _ related)
  | .group logic children => exact .group logic (FilterNode.AllAlike.imp weaker children)
termination_by structural nodes

theorem FilterNode.AllAlike.imp {leaves others : FilterLeaf → FilterLeaf → Prop}
    (weaker : ∀ one two, leaves one two → others one two) {first second : List FilterNode}
    (nodes : FilterNode.AllAlike leaves first second) : FilterNode.AllAlike others first second := by
  match nodes with
  | .nil => exact .nil
  | .cons head tail => exact .cons (FilterNode.Alike.imp weaker head) (FilterNode.AllAlike.imp weaker tail)
termination_by structural nodes

end

abbrev Scope.Twin (like : Likeness) (dialect : Dialect) (first second : Scope) : Prop :=
  Store.Twin like dialect first.store second.store

theorem FilterLeaf.compile_both {first second : FilterLeaf} (twins : FilterLeaf.Twin like adapter first second)
    (id : GroupId) (junction : Junction) :
    Action.Both (Scope.Twin like adapter.dialect) (fun _ _ => True) (first.compile adapter id junction)
      (second.compile adapter id junction) := by
  intro before before' value value' after after' scopes ran ran'
  unfold FilterLeaf.compile at ran ran'
  cases found : first.outcome adapter with
  | error failure =>
    rw [found] at ran
    cases ran
  | ok outcome =>
    cases found' : second.outcome adapter with
    | error failure =>
      rw [found'] at ran'
      cases ran'
    | ok outcome' =>
      rw [found] at ran
      rw [found'] at ran'
      obtain ⟨removed, rfl⟩ | ⟨operator, test, kept, _, rfl, made⟩ := outcome_cases found
      · obtain ⟨_, rfl⟩ | ⟨operator', _, kept', _⟩ := outcome_cases found'
        · cases ran
          cases ran'
          exact ⟨scopes, trivial⟩
        · rw [← twins.operator, removed] at kept'
          cases kept'
      · obtain ⟨removed', _⟩ | ⟨operator', test', kept', _, rfl, made'⟩ := outcome_cases found'
        · rw [← twins.operator, kept] at removed'
          cases removed'
        · rw [← twins.operator, kept] at kept'
          cases kept'
          cases ran
          cases ran'
          exact ⟨scopes.add id junction (.cond (.atom (twins.tests kept made made'))), trivial⟩

mutual

/-- Nodes of one shape add twins to a group. -/
theorem FilterNode.compile_both {first second : FilterNode}
    (nodes : FilterNode.Alike (FilterLeaf.Twin like adapter) first second) (id : GroupId) (junction : Junction) :
    Action.Both (Scope.Twin like adapter.dialect) (fun _ _ => True) (first.compile adapter id junction)
      (second.compile adapter id junction) := by
  match nodes with
  | .leaf leaves =>
    rw [FilterNode.compile, FilterNode.compile]
    exact (FilterLeaf.compile_both leaves id junction).bind fun _ _ _ => .pure trivial
  | .group logic children =>
    intro before before' value value' after after' scopes ran ran'
    rw [FilterNode.compile] at ran ran'
    obtain ⟨inner, stores⟩ := scopes.nested id junction
    dsimp only at ran ran'
    rw [inner] at ran
    exact FilterNode.compileAll_both children _ logic _ _ _ _ _ _ stores ran ran'
termination_by structural nodes

theorem FilterNode.compileAll_both {first second : List FilterNode}
    (nodes : FilterNode.AllAlike (FilterLeaf.Twin like adapter) first second) (id : GroupId) (junction : Junction) :
    Action.Both (Scope.Twin like adapter.dialect) (fun _ _ => True) (FilterNode.compileAll adapter id junction first)
      (FilterNode.compileAll adapter id junction second) := by
  match nodes with
  | .nil => exact .pure trivial
  | .cons head tail =>
    rw [FilterNode.compileAll, FilterNode.compileAll]
    exact (FilterNode.compile_both head id junction).bind fun _ _ _ => FilterNode.compileAll_both tail id junction
termination_by structural nodes

end

namespace Query

variable {first second grown grown' : Query}

theorem Twin.callRoot (twins : Query.Twin like start first second) {method : GroupMethod} {arguments : List Argument}
    (called : first.callRoot method arguments = .ok grown) (called' : second.callRoot method arguments = .ok grown') :
    Query.Twin like start grown grown' := by
  obtain ⟨store, made, same⟩ := Except.bind_ok called
  obtain ⟨store', made', same'⟩ := Except.bind_ok called'
  cases same
  cases same'
  rw [twins.adapter.1] at made
  rw [twins.adapter.2, ← twins.root] at made'
  refine twins.withStore (twins.store.call ?_ made made')
  intro entry entry' read read'
  rw [read] at read'
  cases read'
  exact ⟨.refl _, rfl⟩

theorem Twin.orderByRaw (twins : Query.Twin like start first second) {sql bindings : Value}
    (called : first.orderByRaw sql bindings = .ok grown) (called' : second.orderByRaw sql bindings = .ok grown') :
    Query.Twin like start grown grown' := by
  unfold Query.orderByRaw at called called'
  obtain ⟨places, held, made⟩ := Except.bind_ok called
  obtain ⟨places', held', made'⟩ := Except.bind_ok called'
  obtain rfl : places = places' := Except.ok.inj (held.symm.trans held')
  cases places with
  | true =>
    obtain ⟨fragment, read, same⟩ := Except.bind_ok made
    obtain ⟨fragment', read', same'⟩ := Except.bind_ok made'
    obtain rfl : fragment = fragment' := Except.ok.inj (read.symm.trans read')
    cases same
    cases same'
    exact twins.orderBy (.refl _)
  | false =>
    cases sql <;> cases made <;> cases made' <;> exact twins.orderBy (.refl _)

/-- A named override does alike to twin queries. -/
theorem Twin.applyToQuery (twins : Query.Twin like start first second) {override : NamedOverride}
    {column keyword : String} (applied : override.applyToQuery column keyword first = .ok grown)
    (applied' : override.applyToQuery column keyword second = .ok grown') : Query.Twin like start grown grown' := by
  obtain ⟨_, checked, applied⟩ := Except.bind_ok applied
  obtain ⟨_, _, applied'⟩ := Except.bind_ok applied'
  obtain ⟨operation, parameters⟩ := override
  cases operation
  case orderBy =>
    cases applied
    cases applied'
    rw [twins.adapter.1, twins.adapter.2]
    exact twins.orderBy (.refl _)
  case orderByRaw =>
    obtain ⟨answer, called, same⟩ := Except.bind_ok applied
    obtain ⟨answer', called', same'⟩ := Except.bind_ok applied'
    cases same
    cases same'
    obtain ⟨_, _, called⟩ := Except.bind_ok called
    obtain ⟨_, _, called'⟩ := Except.bind_ok called'
    obtain ⟨ordered, made, same⟩ := Except.bind_ok called
    obtain ⟨ordered', made', same'⟩ := Except.bind_ok called'
    cases same
    cases same'
    exact twins.orderByRaw made made'
  -- All others are calls of a group's method on the root.
  all_goals
    obtain ⟨⟨method, arguments⟩, chosen, applied⟩ := Except.bind_ok applied
    obtain ⟨_, chosen', applied'⟩ := Except.bind_ok applied'
    cases chosen.symm.trans chosen'
    cases method with
    | compare | raw => exact twins.callRoot applied applied'
    | member | orRaw =>
      dsimp only at applied
      split at applied <;> cases applied
    | orCompare | null | notNull => cases applied

end Query

/-- Terms under names by which both runs order: what they are written as is alike. -/
def OrderTerm.WrittenAs (like : Likeness) (config : Config) (adapter : Adapter) (first second : OrderTerm)
    (name other : String) : Prop :=
  ∀ written written', RowOrder.termSql config adapter name first = .ok written →
    RowOrder.termSql config adapter other second = .ok written' →
      SortTerm.Twin like adapter.dialect (.text written) (.text written')

namespace RowOrder

/-- Two terms that both runs keep out, or both order by in the same way. -/
structure Paired (like : Likeness) (start : Query) (order other : RowOrder) (first second : OrderTerm) : Prop where
  excluded : order.excludes first.column = other.excludes second.column
  overrides : (order.overrides.lookup first.column = none ∧ other.overrides.lookup second.column = none) ∨
    first.column = second.column ∧ first.descending = second.descending ∧
      ∃ override, order.overrides.lookup first.column = some (.named override) ∧
        other.overrides.lookup second.column = some (.named override)
  own : OrderTerm.WrittenAs like order.config start.adapter first second first.column second.column
  split : Option.Rel (fun one two =>
      order.registry.walk start.mainTable? one.1 = order.registry.walk start.mainTable? two.1 ∧
      ∀ table, OrderTerm.WrittenAs like order.config start.adapter first second (table ++ "." ++ one.2)
          (table ++ "." ++ two.2) ∧
        Expr.Twin like start.dialect (start.adapter.column (table ++ "." ++ one.2))
          (start.adapter.column (table ++ "." ++ two.2)))
    (order.paths.split? first.column) (order.paths.split? second.column)

/-- Two orders with the same settings and no script, for requests with paired terms. -/
structure Twin (like : Likeness) (start : Query) (order other : RowOrder) : Prop where
  config : order.config = other.config
  registry : order.registry = other.registry
  paths : order.paths = other.paths
  script : order.script = none ∧ other.script = none
  terms {first second : Option OrderTerm} (read : order.request.orderTerm? = .ok first)
    (read' : other.request.orderTerm? = .ok second) : Option.Rel (Paired like start order other) first second

variable {order other : RowOrder} {first second : OrderTerm}

theorem addTerm_both {config : Config} {name name' : String}
    (written : OrderTerm.WrittenAs like config start.adapter first second name name') :
    Action.Both (Query.Twin like start) (fun _ _ => True) (addTerm config name first)
      (addTerm config name' second) := by
  unfold addTerm
  refine Action.Both.get.bind ?_
  intro before before' twins
  have made : Action.Both (Query.Twin like start)
      (fun sql sql' => SortTerm.Twin like start.dialect (.text sql) (.text sql'))
      (liftM (termSql config before.adapter name first)) (liftM (termSql config before'.adapter name' second)) := by
    rw [twins.adapter.1, twins.adapter.2]
    exact .lift written
  refine made.bind ?_
  intro sql sql' terms
  exact .set (twins.orderBy terms)

theorem addPathTerm_both (orders : Twin like start order other) {path path' column column' : String}
    (same : order.registry.walk start.mainTable? path = order.registry.walk start.mainTable? path')
    (placed : ∀ table, OrderTerm.WrittenAs like order.config start.adapter first second (table ++ "." ++ column)
        (table ++ "." ++ column') ∧
      Expr.Twin like start.dialect (start.adapter.column (table ++ "." ++ column))
        (start.adapter.column (table ++ "." ++ column'))) :
    Action.Both (Query.Twin like start) (fun _ _ => True) (order.addPathTerm path column first)
      (other.addPathTerm path' column' second) := by
  unfold addPathTerm
  refine Action.Both.get.bind ?_
  intro before before' twins
  have orderable : before.isOrderablePath order.registry path = before'.isOrderablePath other.registry path' := by
    rw [Query.isOrderablePath, Query.isOrderablePath, twins.mainTables.1, twins.mainTables.2, same, orders.registry]
  have asked : Action.Both (Query.Twin like start) Eq (liftM (before.isOrderablePath order.registry path))
      (liftM (before'.isOrderablePath other.registry path')) := by
    apply Action.Both.lift
    intro answer answer' done done'
    rw [orderable, done'] at done
    cases done
    rfl
  refine asked.bind ?_
  rintro answer _ rfl
  by_cases followed : answer = true
  · simp only [followed, if_true]
    have joined : Action.Both (Query.Twin like start)
        (fun a b => Query.Twin like start a.2 b.2 ∧
          OrderTerm.WrittenAs like order.config start.adapter first second a.1 b.1)
        (liftM (before.joinPath order.registry path column))
        (liftM (before'.joinPath other.registry path' column')) := by
      apply Action.Both.lift
      rintro ⟨name, joined⟩ ⟨name', joined'⟩ reached reached'
      rw [← orders.registry] at reached'
      obtain ⟨both, table, rfl, rfl⟩ := twins.joinPath same (fun table => (placed table).2) reached reached'
      exact ⟨both, (placed table).1⟩
    refine joined.bind ?_
    rintro ⟨name, joined⟩ ⟨name', joined'⟩ ⟨both, written⟩
    rw [← orders.config]
    exact (Action.Both.set both).bind fun _ _ _ => addTerm_both written
  · simp only [followed]
    exact .pure trivial

theorem addRequested_both (orders : Twin like start order other) (paired : Paired like start order other first second) :
    Action.Both (Query.Twin like start) (fun _ _ => True) (order.addRequested first) (other.addRequested second) := by
  unfold addRequested
  obtain ⟨one, two⟩ | ⟨column, direction, override, one, two⟩ := paired.overrides
  · simp only [one, two, paired.excluded]
    by_cases kept : other.excludes second.column = true
    · simp only [kept]
      exact .pure trivial
    · simp only [kept]
      have split := paired.split
      rw [← orders.paths, ← orders.config]
      generalize order.paths.split? first.column = along at split ⊢
      generalize order.paths.split? second.column = along' at split ⊢
      cases split with
      | none => exact addTerm_both paired.own
      | some placed => exact addPathTerm_both orders placed.1 placed.2
  · simp only [one, two]
    rw [column, direction]
    refine Action.Both.get.bind ?_
    intro before before' twins
    have applied : Action.Both (Query.Twin like start) (Query.Twin like start)
        (liftM (override.applyToQuery second.column (directionWord second.descending) before))
        (liftM (override.applyToQuery second.column (directionWord second.descending) before')) :=
      .lift fun _ _ done done' => twins.applyToQuery done done'
    exact applied.bind fun _ _ both => .set both

/-- The order of the rows keeps queries twins: it adds terms that are written alike. -/
theorem run_both (orders : Twin like start order other) :
    Action.Both (Query.Twin like start) (fun _ _ => True) order.run other.run := by
  unfold run
  rw [orders.script.1, orders.script.2]
  have asked : Action.Both (Query.Twin like start) (Option.Rel (Paired like start order other))
      (liftM order.request.orderTerm?) (liftM other.request.orderTerm?) :=
    .lift fun _ _ read read' => orders.terms read read'
  refine asked.bind ?_
  rintro _ _ (paired | _)
  · exact addRequested_both orders paired
  · exact .pure trivial

end RowOrder

namespace Refresh

/-- The passes that a request decides. -/
inductive Pass where
  | globalSearch | columnSearch | treeFilter | orderRows
  deriving DecidableEq, Repr

def Pass.run : Pass → Action Refresh Unit
  | globalSearch => Refresh.globalSearch
  | columnSearch => Refresh.columnSearch
  | treeFilter => Refresh.treeFilter
  | orderRows => Refresh.orderRows

/-- Two refreshes whose passes do alike. -/
structure Twin (like : Likeness) (first second : Refresh) : Prop where
  query : Query.Twin like first.query first.query second.query
  search : Search.Twin like first.query first.search second.search
  order : RowOrder.Twin like first.query first.rowOrder second.rowOrder
  trees {value value' : Value} {tree tree' : Option FilterTree} (asked : first.request.filters = .ok value)
    (asked' : second.request.filters = .ok value') (read : (FilterTree.ofValue value).1 = .ok tree)
    (read' : (FilterTree.ofValue value').1 = .ok tree') :
    Option.Rel (fun one other => FilterNode.Alike (FilterLeaf.Twin like first.query.adapter) one.toNode other.toNode)
      tree tree'

/-- What two runs came to: the settings are those of the start, and the queries are twins. -/
structure Beside (like : Likeness) (first second before after : Refresh) : Prop where
  search : before.search = first.search ∧ after.search = second.search
  order : before.rowOrder = first.rowOrder ∧ after.rowOrder = second.rowOrder
  query : Query.Twin like first.query before.query after.query

variable {first second : Refresh}

theorem note_both (pass : String) :
    Action.Both (Beside like first second) (fun _ _ => True) (note pass) (note pass) := by
  intro before before' value value' after after' beside ran ran'
  have kept {refresh final : Refresh} {result : PUnit} (ran : note pass refresh = (.ok result, final)) :
      final.search = refresh.search ∧ final.rowOrder = refresh.rowOrder ∧ final.query = refresh.query := by
    obtain ⟨_, _, read, ran⟩ := Action.bind_ok ran
    cases read
    split at ran
    · obtain ⟨text, _, written, ran⟩ := Action.bind_ok ran
      obtain ⟨_, rfl⟩ := Action.lift_ok written
      cases ran
      exact ⟨rfl, rfl, rfl⟩
    · cases ran
      exact ⟨rfl, rfl, rfl⟩
  obtain ⟨search, order, query⟩ := kept ran
  obtain ⟨search', order', query'⟩ := kept ran'
  refine ⟨⟨?_, ?_, ?_⟩, trivial⟩
  · rw [search, search']
    exact beside.search
  · rw [order, order']
    exact beside.order
  · rw [query, query']
    exact beside.query

theorem runSearch_both {pass : Search → Action Searching Unit}
    (steps : Action.Both (Searching.Twin like first.query) (fun _ _ => True) (pass first.search) (pass second.search)) :
    Action.Both (Beside like first second) (fun _ _ => True) (runSearch pass) (runSearch pass) := by
  unfold runSearch
  refine Action.Both.get.bind ?_
  intro refresh refresh' beside
  rw [beside.search.1, beside.search.2]
  have inner : Action.Both (Searching.Twin like first.query) (fun _ _ => True)
      (do
        pass first.search
        return (← get).applied)
      (do
        pass second.search
        return (← get).applied) :=
    steps.bind fun _ _ _ => Action.Both.get.bind fun _ _ _ => .pure trivial
  have searched : Action.Both (Beside like first second) (fun _ _ => True)
      (Action.on (fun refresh : Refresh => ({ query := refresh.query } : Searching))
        (fun searching refresh => { refresh with query := searching.query })
        (do
          pass first.search
          return (← get).applied))
      (Action.on (fun refresh : Refresh => ({ query := refresh.query } : Searching))
        (fun searching refresh => { refresh with query := searching.query })
        (do
          pass second.search
          return (← get).applied)) := by
    refine Action.Both.on ?_ ?_ inner
    · intro before before' beside
      exact beside.query
    · intro before before' beside _ _ twins
      exact ⟨beside.search, beside.order, twins⟩
  refine searched.bind ?_
  intro applied applied' _
  apply Action.Both.modify
  intro before before' beside
  exact ⟨beside.search, beside.order, beside.query⟩

theorem globalSearch_both (refreshes : Twin like first second) :
    Action.Both (Beside like first second) (fun _ _ => True) globalSearch globalSearch :=
  (runSearch_both (Search.runGlobal_both refreshes.search)).bind fun _ _ _ => note_both _

theorem columnSearch_both (refreshes : Twin like first second) :
    Action.Both (Beside like first second) (fun _ _ => True) columnSearch columnSearch :=
  (runSearch_both (Search.runOwn_both refreshes.search)).bind fun _ _ _ => note_both _

theorem orderRows_both (refreshes : Twin like first second) :
    Action.Both (Beside like first second) (fun _ _ => True) orderRows orderRows := by
  unfold orderRows
  refine Action.Both.get.bind ?_
  intro refresh refresh' beside
  rw [beside.order.1, beside.order.2]
  have ordered : Action.Both (Beside like first second) (fun _ _ => True) (onQuery first.rowOrder.run)
      (onQuery second.rowOrder.run) := by
    refine Action.Both.on ?_ ?_ (RowOrder.run_both refreshes.order)
    · intro before before' beside
      exact beside.query
    · intro before before' beside _ _ twins
      exact ⟨beside.search, beside.order, twins⟩
  exact ordered.bind fun _ _ _ => note_both _

theorem treeFilter_both (refreshes : Twin like first second) :
    Action.Both (Beside like first second) (fun _ _ => True) treeFilter treeFilter := by
  unfold treeFilter
  refine Action.Both.get.bind ?_
  intro refresh refresh' beside
  have request : refresh.request = first.request := congrArg Search.request beside.search.1
  have request' : refresh'.request = second.request := congrArg Search.request beside.search.2
  rw [request, request']
  have asked : Action.Both (Beside like first second)
      (fun value value' => first.request.filters = .ok value ∧ second.request.filters = .ok value')
      (liftM first.request.filters) (liftM second.request.filters) :=
    .lift fun _ _ done done' => ⟨done, done'⟩
  refine asked.bind ?_
  rintro value value' ⟨done, done'⟩
  have read : Action.Both (Beside like first second)
      (Option.Rel fun one other => FilterNode.Alike (FilterLeaf.Twin like first.query.adapter) one.toNode other.toNode)
      (readTree value) (readTree value') := by
    unfold readTree
    refine Action.Both.bind (.modify ?_) fun _ _ _ => .lift fun _ _ read read' => refreshes.trees done done' read read'
    intro before before' beside
    exact ⟨beside.search, beside.order, beside.query⟩
  refine read.bind ?_
  rintro _ _ (trees | _)
  · refine Action.Both.get.bind ?_
    intro before before' beside
    dsimp only
    rw [beside.query.adapter.1, beside.query.adapter.2, beside.query.root]
    have compiled := FilterNode.compile_both trees before'.query.root .and
    refine Action.Both.bind (.on ?_ ?_ compiled) fun _ _ _ => Action.Both.bind (.modify ?_) fun _ _ _ => note_both _
    · intro before before' beside
      exact beside.query.store
    · intro before before' beside _ _ scopes
      exact ⟨beside.search, beside.order, beside.query.withStore scopes⟩
    · intro before before' beside
      exact ⟨beside.search, beside.order, beside.query⟩
  · exact .pure trivial

theorem Pass.run_both (refreshes : Twin like first second) (pass : Pass) :
    Action.Both (Beside like first second) (fun _ _ => True) pass.run pass.run := by
  cases pass with
  | globalSearch => exact globalSearch_both refreshes
  | columnSearch => exact columnSearch_both refreshes
  | treeFilter => exact treeFilter_both refreshes
  | orderRows => exact orderRows_both refreshes

/-- Any passes that both refreshes come through, one after the other, leave their queries twins. -/
theorem passes_twin (refreshes : Twin like first second) {passes : List Pass} {result result' : PUnit}
    {after after' : Refresh} (ran : passes.forM Pass.run first = (.ok result, after))
    (ran' : passes.forM Pass.run second = (.ok result', after')) :
    Query.Twin like first.query after.query after'.query := by
  have each : List.Forall₂ Eq passes passes := List.forall₂_same.mpr fun _ _ => rfl
  have both : Action.Both (Beside like first second) (fun _ _ => True) (passes.forM Pass.run)
      (passes.forM Pass.run) := by
    refine .forM each ?_
    rintro pass _ rfl
    exact pass.run_both refreshes
  have beside : Beside like first second first second := ⟨⟨rfl, rfl⟩, ⟨rfl, rfl⟩, refreshes.query⟩
  exact (both _ _ _ _ _ _ beside ran ran').1.query

end Refresh

end DataGrid
