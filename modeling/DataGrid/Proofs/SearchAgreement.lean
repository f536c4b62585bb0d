import DataGrid.Proofs.PathSearches
import DataGrid.Proofs.ScopeAgreement

/-! The two searches for a column behind relations keep the same rows. One tests the rows that are joined along the
path, the other looks for a related row that passes. They differ where a join finds rows without the row before it, so
each join after the first has to take a key from there. -/

namespace DataGrid

open Sql

variable {Cell : Type}

/-- What is added to a list by `and` counts in its last alternative only. -/
theorem Sql.Truth.fold_last (values : List (Junction × Truth)) :
    ∃ alternatives current : Truth, ∀ value,
      fold (values ++ [(.and, value)]) = some (alternatives.or (current.and value)) := by
  have from_ (before current : Truth) (rest : List (Junction × Truth)) : ∃ alternatives current' : Truth, ∀ value,
      foldFrom before current (rest ++ [(.and, value)]) = alternatives.or (current'.and value) := by
    induction rest generalizing before current with
    | nil => exact ⟨before, current, fun _ => rfl⟩
    | cons entry rest ih =>
      obtain ⟨junction, value⟩ := entry
      cases junction with
      | and => exact ih before (current.and value)
      | or => exact ih (before.or current) value
  cases values with
  | nil => exact ⟨.no, .yes, fun _ => rfl⟩
  | cons entry rest =>
    obtain ⟨junction, value⟩ := entry
    obtain ⟨alternatives, current, same⟩ := from_ .no value rest
    exact ⟨alternatives, current, fun added => congrArg some (same added)⟩

/-- Whether a row passes a group with one more tree, given the values of the group and of that tree. -/
theorem Forest.passes_last (values : List (Junction × Truth)) :
    ∃ free bound : Prop, ∀ {reader : Reader} {assignment : Assignment} {forest : Forest} {tree : PredicateTree}
      {value : Truth}, forest.values reader assignment = values → tree.value? reader assignment = some value →
        (Forest.Passes (forest ++ [(.and, tree)]) reader assignment ↔ free ∨ (bound ∧ value = .yes)) := by
  obtain ⟨alternatives, current, same⟩ := Truth.fold_last values
  refine ⟨alternatives = .yes, current = .yes, ?_⟩
  intro reader assignment forest tree value known worth
  have last : Forest.values reader assignment [(.and, tree)] = [(.and, value)] := by
    rw [Forest.values, worth]
    rfl
  rw [Passes, value?, values_append, known, last, same, Option.getD_some, Truth.or_eq_yes, Truth.and_eq_yes]

/-- A group can stand in a list joined by `and`: it gets parentheses. -/
theorem PredicateTree.group_steady {reader : Reader} (forest : Forest) :
    ∀ clause ∈ (PredicateTree.group forest).clause?, clause.Steady reader := by
  intro clause found
  rw [PredicateTree.clause?, Option.mem_def, Option.map_eq_some_iff] at found
  obtain ⟨inner, _, rfl⟩ := found
  exact inner.enclosed_steady

theorem PredicateTree.value_alternative {reader : Reader} {assignment : Assignment} (condition : Cond) :
    (PredicateTree.group [(.or, .cond condition)]).value? reader assignment =
      some (condition.value reader assignment) := rfl

namespace Query

/-- A query whose root holds conditions that do not come apart, whatever words join them. -/
structure Composed (query : Query) (reader : Reader) (held : Forest) : Prop where
  formed : query.Formed
  root : query.store.Unfolds (fun _ => True) query.root held
  apart : ∀ entry ∈ held, entry.2.Guarded reader
  steady : ∀ entry ∈ held.clauses, entry.2.Steady reader
  base : ∀ condition ∈ query.base.filter, condition.Safe reader

/-- The scopes that the `FROM` of a query makes of a row of its main table. -/
def scopes (query : Query) (contents : Contents Cell) (reader : Reader) (main : String) (row : TableRow Cell) :
    List (List (Frame Cell)) :=
  contents.joinScopes reader query.adapter [⟨main, row⟩] (query.base.joins ++ query.joins)

/-- Whether a row of the main table is among those that a query keeps, however often its joins repeat it. -/
def Keeps (query : Query) (contents : Contents Cell) (reader : Reader) (row : TableRow Cell) : Prop :=
  ∃ main ∈ query.mainTable?, ∃ filter, query.condition = .ok filter ∧
    ∃ scope ∈ query.scopes contents reader main row,
      Accepts reader (contents.assignment reader query.adapter scope) filter

/-- Whether rows of some tables beside those in a scope change nothing of what a query asks for. -/
structure Blind (query : Query) (contents : Contents Cell) (reader : Reader) (held : Forest) (tables : List String)
    (scope : List (Frame Cell)) : Prop where
  base : ∀ frames : List (Frame Cell), (∀ frame ∈ frames, frame.table ∈ tables) →
    (Accepts reader (contents.assignment reader query.adapter (frames ++ scope)) query.base.filter ↔
      Accepts reader (contents.assignment reader query.adapter scope) query.base.filter)
  held : ∀ frames : List (Frame Cell), (∀ frame ∈ frames, frame.table ∈ tables) →
    held.values reader (contents.assignment reader query.adapter (frames ++ scope)) =
      held.values reader (contents.assignment reader query.adapter scope)

/-- A query with joins and one more condition at its root. -/
structure Adds (before after : Query) (joins : List Join) (tree : PredicateTree) : Prop where
  base : after.base = before.base
  adapter : after.adapter = before.adapter
  root : after.root = before.root
  joins : after.joins = before.joins ++ joins
  store : Store.Appends before.root before.store after.store [(.and, tree)]

section Rows
variable {query later : Query} {contents : Contents Cell} {reader : Reader} {held : Forest} {joins : List Join}
  {tree : PredicateTree} {filter : Option Cond} {main : String} {row : TableRow Cell}

/-- A row passes the condition of the later query when it passes the old ones and the new one. -/
theorem Composed.accepts (composed : query.Composed reader held) (adds : query.Adds later joins tree)
    (guarded : tree.Guarded reader) (steady : ∀ clause ∈ tree.clause?, clause.Steady reader)
    (made : later.condition = .ok filter) (assignment : Assignment) :
    Accepts reader assignment filter ↔
      Accepts reader assignment query.base.filter ∧ Forest.Passes (held ++ [(.and, tree)]) reader assignment := by
  have grown := adds.store.unfolds composed.formed.closed composed.root
  have apart : ∀ entry ∈ held ++ [(.and, tree)], entry.2.Guarded reader :=
    List.forall_mem_append.mpr ⟨composed.apart, List.forall_mem_singleton.mpr guarded⟩
  have stays : ∀ entry ∈ Forest.clauses (held ++ [(.and, tree)]), entry.2.Steady reader := by
    rw [Forest.clauses_append, List.forall_mem_append]
    refine ⟨composed.steady, fun ⟨junction, clause⟩ member => ?_⟩
    obtain ⟨added, present, found⟩ := Forest.mem_clauses.mp member
    cases List.mem_singleton.mp present
    exact steady _ found
  rw [Query.condition_eq made (adds.root ▸ grown), adds.base]
  apply Forest.accepts composed.base (Forest.guarded_steady apart stays)
  exact fun _ clause found => Store.fold_steady found stays

/-- A row is kept when it is joined to rows with which it passes the conditions, old and new. -/
theorem Composed.keeps_iff (composed : query.Composed reader held) (adds : query.Adds later joins tree)
    (guarded : tree.Guarded reader) (steady : ∀ clause ∈ tree.clause?, clause.Steady reader)
    (named : query.mainTable? = some main) (made : later.condition = .ok filter) :
    later.Keeps contents reader row ↔ ∃ scope ∈ query.scopes contents reader main row,
      ∃ final ∈ contents.joinScopes reader query.adapter scope joins,
        Accepts reader (contents.assignment reader query.adapter final) query.base.filter ∧
          Forest.Passes (held ++ [(.and, tree)]) reader (contents.assignment reader query.adapter final) := by
  have still : later.mainTable? = some main := by rw [mainTable?, adds.base, ← named, mainTable?]
  have split (final : List (Frame Cell)) : final ∈ later.scopes contents reader main row ↔
      ∃ scope ∈ query.scopes contents reader main row,
        final ∈ contents.joinScopes reader query.adapter scope joins := by
    rw [scopes, adds.base, adds.adapter, adds.joins, ← List.append_assoc, Contents.mem_joinScopes_append, scopes]
  simp only [Keeps, still, Option.mem_def, Option.some.injEq, exists_eq_left', made, Except.ok.injEq, split,
    adds.adapter, composed.accepts adds guarded steady made]
  constructor
  · rintro ⟨final, ⟨scope, start, joined⟩, passes⟩
    exact ⟨scope, start, final, joined, passes⟩
  · rintro ⟨scope, start, final, joined, passes⟩
    exact ⟨final, ⟨scope, start, joined⟩, passes⟩

/-- Where a query does not look at the rows beside a scope, these count for one more tree only: a row passes with them
when it does so freely, or when nothing but the tree is left for it to pass. -/
theorem Blind.passes {tables : List String} {scope : List (Frame Cell)}
    (blind : query.Blind contents reader held tables scope) :
    ∃ free bound : Prop, ∀ (frames : List (Frame Cell)) {tree : PredicateTree} {value : Truth},
      (∀ frame ∈ frames, frame.table ∈ tables) →
      tree.value? reader (contents.assignment reader query.adapter (frames ++ scope)) = some value →
      ((Accepts reader (contents.assignment reader query.adapter (frames ++ scope)) query.base.filter ∧
          Forest.Passes (held ++ [(.and, tree)]) reader (contents.assignment reader query.adapter (frames ++ scope))) ↔
        Accepts reader (contents.assignment reader query.adapter scope) query.base.filter ∧
          (free ∨ bound ∧ value = .yes)) := by
  obtain ⟨free, bound, passes⟩ :=
    Forest.passes_last (held.values reader (contents.assignment reader query.adapter scope))
  refine ⟨free, bound, fun frames _ _ named worth => ?_⟩
  exact and_congr (blind.base frames named) (passes (blind.held frames named) worth)

/-- A search along joins and one along subqueries keep the same rows, where each join is anchored in the one before it
and the tables of the path are not joined or looked at yet. -/
theorem Composed.searches_agree {own overall : Query} {first : Relation} {rest : List Relation} {test : Cond}
    {ownFilter overallFilter : Option Cond} (composed : query.Composed reader held)
    (separates : query.adapter.dialect.Separates) (named : query.mainTable? = some main)
    (distinct : (main :: (first :: rest).flatMap Relation.tables).Nodup)
    (chained : Relation.Chained query.adapter main (first :: rest)) (safe : test.Safe reader)
    (there : ∀ final, Contents.Missing query.adapter final (Relation.leads main (first :: rest)) →
      test.value reader (contents.assignment reader query.adapter final) ≠ .yes)
    (joins : query.Adds own ((first :: rest).flatMap (Relation.joins query.adapter)) (.cond test))
    (nests : query.Adds overall [] (.group [(.or, .cond (first.existsThrough query.adapter (some test) rest))]))
    (made : own.condition = .ok ownFilter) (made' : overall.condition = .ok overallFilter)
    (blind : ∀ scope ∈ query.scopes contents reader main row,
      query.Blind contents reader held ((first :: rest).flatMap Relation.tables) scope) :
    own.Keeps contents reader row ↔ overall.Keeps contents reader row := by
  have nested : (PredicateTree.group [(.or, .cond (first.existsThrough query.adapter (some test) rest))]).Guarded
      reader :=
    Forest.guarded_or (List.forall_mem_singleton.mpr rfl)
      (List.forall_mem_singleton.mpr (Relation.existsThrough_safe (some test) first rest).1)
  have own' : ∀ clause ∈ (PredicateTree.cond test).clause?, clause.Steady reader := by
    rintro _ ⟨⟩
    exact safe.2
  rw [composed.keeps_iff joins safe.1 own' named made,
    composed.keeps_iff nests nested (PredicateTree.group_steady _) named made']
  refine exists_congr fun scope => and_congr_right fun start => ?_
  obtain ⟨free, bound, passes⟩ := (blind scope start).passes
  have present : ∃ own, Contents.rowOf? query.adapter scope (query.adapter.quoteIdentifier main) = some own := by
    obtain ⟨frames, rfl, _⟩ := Contents.joinScopes_tables start
    exact Contents.rowOf?_isSome query.adapter (by simp)
  obtain ⟨found, present⟩ := present
  have outer : ∀ join ∈ (first :: rest).flatMap (Relation.joins query.adapter), join.outer = true :=
    List.forall_mem_flatMap.mpr fun relation _ => relation.joins_outer query.adapter
  have joined (final : List (Frame Cell)) (made : final ∈ contents.joinScopes reader query.adapter scope
      ((first :: rest).flatMap (Relation.joins query.adapter))) :
      (Accepts reader (contents.assignment reader query.adapter final) query.base.filter ∧
          Forest.Passes (held ++ [(.and, .cond test)]) reader (contents.assignment reader query.adapter final)) ↔
        Accepts reader (contents.assignment reader query.adapter scope) query.base.filter ∧
          (free ∨ bound ∧ test.value reader (contents.assignment reader query.adapter final) = .yes) := by
    obtain ⟨frames, rfl, names⟩ := Contents.joinScopes_tables made
    refine passes frames (fun frame member => ?_) rfl
    rw [← Relation.allJoins_names query.adapter, ← List.mem_reverse, ← names]
    exact List.mem_map_of_mem member
  have reached := @Relation.existsThrough_joined Cell contents reader _ _ _ _ _ _ _ safe separates distinct chained
    present there
  have alone := passes [] (List.forall_mem_nil _)
    (PredicateTree.value_alternative (first.existsThrough query.adapter (some test) rest))
  rw [List.nil_append, reached] at alone
  simp only [Contents.joinScopes, List.mem_singleton, exists_eq_left, alone]
  -- A row that passes freely still has to be joined to something: outer joins lose no row.
  constructor
  · rintro ⟨final, made, passed⟩
    obtain ⟨old, open_ | ⟨bound, new⟩⟩ := (joined final made).mp passed
    · exact ⟨old, .inl open_⟩
    · exact ⟨old, .inr ⟨bound, final, made, new⟩⟩
  · rintro ⟨old, open_ | ⟨bound, final, made, new⟩⟩
    · obtain ⟨final, made⟩ := Contents.exists_joinScope outer scope
      exact ⟨final, made, (joined final made).mpr ⟨old, .inl open_⟩⟩
    · exact ⟨final, made, (joined final made).mpr ⟨old, .inr ⟨bound, new⟩⟩⟩

/-- The conditions of a query can be put together after more was added, unless they hold plain truth values or are
nested too deep. -/
theorem Composed.readable (composed : query.Composed reader held) (adds : query.Adds later joins tree)
    (each : Forest.Each (fun _ => True) (held ++ [(.and, tree)]))
    (shallow : Forest.height (held ++ [(.and, tree)]) ≤ stepLimit / 3) : ∃ filter, later.condition = .ok filter := by
  have grown := adds.store.unfolds composed.formed.closed composed.root
  have closed := adds.store.closed composed.formed.closed
  rw [condition, adds.root, GroupCall.clause_of_shallow closed grown each shallow]
  exact ⟨_, rfl⟩

/-- Conditions that name only the tables in the `FROM` of a query do not look at others. -/
theorem Composed.blind {tables : List String} {scope : List (Frame Cell)} (composed : query.Composed reader held)
    (separates : query.adapter.dialect.Separates)
    (apart : ∀ table ∈ main :: (query.base.joins ++ query.joins).map Join.name, table ∉ tables)
    (base : ∀ condition ∈ query.base.filter,
      condition.NamesOnly query.adapter (main :: (query.base.joins ++ query.joins).map Join.name))
    (asked : held.Each (·.NamesOnly query.adapter (main :: (query.base.joins ++ query.joins).map Join.name)))
    (start : scope ∈ query.scopes contents reader main row) : query.Blind contents reader held tables scope := by
  obtain ⟨shown, rfl, names⟩ := Contents.joinScopes_tables start
  have agree {frames : List (Frame Cell)} (others : ∀ frame ∈ frames, frame.table ∈ tables) :
      Contents.Agree query.adapter (main :: (query.base.joins ++ query.joins).map Join.name)
        (frames ++ (shown ++ [⟨main, row⟩])) (shown ++ [⟨main, row⟩]) := by
    refine Contents.agree_behind separates (fun table member => ?_) fun frame beside here =>
      apart frame.table here (others frame beside)
    rw [List.map_append, names]
    rcases List.mem_cons.mp member with rfl | joined
    · exact List.mem_append_right _ (.head _)
    · exact List.mem_append_left _ (List.mem_reverse.mpr joined)
  refine ⟨fun frames others => ?_, fun frames others => Forest.values_agree (agree others) asked⟩
  rw [accepts_iff fun condition present => (composed.base condition present).1,
    accepts_iff fun condition present => (composed.base condition present).1]
  cases filter : query.base.filter with
  | none => rfl
  | some condition => simp only [Clause.filterValue, Option.map_some, (agree others).value (base condition filter)]

end Rows

/-- A path of relations to tables that a query has not joined, none of them twice. -/
structure FreshPath (query : Query) (registry : Registry) (path main : String) (relations : List Relation) : Prop where
  source : query.mainTable? = some main
  walked : registry.walk (some main) path = .ok relations
  distinct : (main :: relations.flatMap Relation.tables).Nodup
  fresh : ∀ table ∈ relations.flatMap Relation.tables, table ∉ query.joined
  named : Relation.leads main relations ≠ ""

variable {query : Query} {registry : Registry} {path main : String} {relations : List Relation}

theorem FreshPath.adds_joins (fresh : query.FreshPath registry path main relations)
    (inside : query.root < query.store.size) (name : String) (test : Cond) :
    let joined := relations.foldl (fun query relation => query.joinRelation name relation) query
    query.Adds { joined with store := query.store.add query.root .and (.cond test) }
      (relations.flatMap (Relation.joins query.adapter)) (.cond test) := by
  intro joined
  have walked : registry.walk query.mainTable? path = .ok relations := fresh.source ▸ fresh.walked
  obtain ⟨_, reached⟩ := Query.joinPath_walked walked name
  have alike : Alike query joined := joinPath_alike reached
  have names := Relation.allJoins_names query.adapter relations
  have asked : joined.record = _ := (joinRelations_record query name relations).trans (JoinRecord.askAll_fresh
    (names ▸ (List.nodup_cons.mp fresh.distinct).2) fun join member =>
      fresh.fresh join.name (names ▸ List.mem_map_of_mem member))
  exact ⟨alike.base, alike.adapter, alike.root, congrArg JoinRecord.joins asked, .cond inside .and test⟩

theorem adds_group (inside : query.root < query.store.size) (related : Cond) :
    let opened := query.store.nested query.root .and
    query.Adds { query with store := opened.2.add opened.1 .or (.cond related) } []
      (.group [(.or, .cond related)]) := by
  intro opened
  have later : query.store.size < opened.2.size := by simp [opened, Store.nested]
  exact ⟨rfl, rfl, rfl, (List.append_nil _).symm, (Store.Appends.cond later .or related).nested inside .and⟩

end Query

namespace Search

variable {search : Search} {own overall : Request} {start : Searching} {column other : Column}
  {path name keyword main : String} {relations : List Relation} {reader : Reader} {held : Forest}

/-- The two searches for a keyword in a column behind relations run through and keep the same rows of the main table,
where each join along the path takes a key from the table before it, and what the query asked for before does not look
at the tables of the path. -/
theorem searches_keep_alike (composed : start.query.Composed reader held)
    (dialect : start.query.adapter.dialect ∈ Dialect.all)
    (fresh : start.query.FreshPath search.registry path main relations)
    (chained : Relation.Chained start.query.adapter main relations) (plain : search.Plain path name column)
    (plain' : search.Plain path name other) (kept : search.excludes other.name = false)
    (asks : AsksOwn own column keyword) (asks' : AsksOverall overall other keyword) (filled : keyword ≠ "")
    (solid : ∀ c ∈ keyword.toList, Text.isBlank c = false) :
    ∃ searched found, { search with request := own }.runOwn start = (.ok ⟨⟩, searched) ∧
      { search with request := overall }.runGlobal start = (.ok ⟨⟩, found) ∧
      (held.Each (fun _ => True) → held.height ≤ stepLimit / 3 →
        ∃ ownFilter overallFilter,
          searched.query.condition = .ok ownFilter ∧ found.query.condition = .ok overallFilter) ∧
      ∀ ownFilter overallFilter, searched.query.condition = .ok ownFilter → found.query.condition = .ok overallFilter →
        ∀ {Cell : Type} (contents : Contents Cell) (row : TableRow Cell),
          (∀ scope ∈ start.query.scopes contents reader main row,
            start.query.Blind contents reader held (relations.flatMap Relation.tables) scope) →
          (searched.query.Keeps contents reader row ↔ found.query.Keeps contents reader row) := by
  obtain ⟨first, rest, rfl⟩ := List.exists_cons_of_ne_nil (Registry.walk_ne_nil fresh.walked)
  have undotted : '.' ∉ name.toList := by simpa using PathSet.split?_undotted plain.split
  have separates := Dialect.all_separate _ dialect
  have terms := Config.terms_single search.config filled solid
  have inside := composed.formed.root
  let test := Cond.atom (search.tableTest start.query.adapter (Relation.leads main (first :: rest)) name keyword)
  have safe : test.Safe reader := search.tableTest_safe ..
  have joins := fresh.adds_joins inside name test
  have nests := Query.adds_group inside (first.existsThrough start.query.adapter (some test) rest)
  have ran := @runOwn_plain { search with request := own } column path name keyword _ start main
    ⟨plain.split, plain.json, plain.own⟩ asks fresh.source fresh.walked
  have ran' := @runGlobal_plain { search with request := overall } other path name keyword start main first rest
    ⟨plain'.split, plain'.json, plain'.own⟩ asks' kept terms fresh.source fresh.walked fresh.named
  refine ⟨_, _, ran, ran', ?_, ?_⟩
  · intro each shallow
    have within (tree : PredicateTree) (small : tree.height ≤ 1) :
        Forest.height (held ++ [(.and, tree)]) ≤ stepLimit / 3 := by
      have limit : 2 ≤ stepLimit / 3 := by decide
      rw [Forest.height_append, Forest.height, Forest.height]
      omega
    obtain ⟨ownFilter, made⟩ := composed.readable joins (each.append ⟨trivial, trivial⟩) (within _ (Nat.zero_le _))
    obtain ⟨overallFilter, made'⟩ :=
      composed.readable nests (each.append ⟨⟨trivial, trivial⟩, trivial⟩) (within _ (Nat.le_refl _))
    exact ⟨ownFilter, overallFilter, made, made'⟩
  · intro ownFilter overallFilter made made' Cell contents row blind
    refine composed.searches_agree separates fresh.source fresh.distinct chained safe ?_ joins nests made made' blind
    exact fun final missing => tableTest_missing separates undotted missing

private def deliveries (cityKey : String) : Registry :=
  ⟨[("orders", [("customer", .belongsTo "customers" "orders.customer_id" "customers.id")]),
    ("customers", [("city", .belongsTo "cities" cityKey "cities.id")])]⟩

private def cityColumn (searchValue : String) : Column :=
  ⟨"customer.city.name", "customer.city.name", true, true, .null, .null, searchValue, false⟩

private def ownRequest : Request :=
  ⟨.object [("columns", .list [.object [("data", .text "customer.city.name"), ("searchable", .bool true),
    ("search", .object [("value", .text "oslo")])]])]⟩

private def overallRequest : Request :=
  ⟨.object [("search", .object [("value", .text "oslo")]),
    ("columns", .list [.object [("data", .text "customer.city.name"), ("searchable", .bool true)]])]⟩

private def citySearch (cityKey : String) (request : Request) : Search where
  request := request
  config := {}
  registry := deliveries cityKey
  paths := PathSet.expand ["customer.city"]
  overrides := []
  excludes _ := false

private def toCity (cityKey : String) : List Relation :=
  [.belongsTo "customers" "orders.customer_id" "customers.id", .belongsTo "cities" cityKey "cities.id"]

private theorem cityColumn_plain (cityKey searchValue : String) (request : Request) :
    (citySearch cityKey request).Plain "customer.city" "name" (cityColumn searchValue) where
  split := by
    have found : (PathSet.expand ["customer.city"]).split? "customer.city.name" = some ("customer.city", "name") := by
      decide +kernel
    exact found
  json := rfl
  own := rfl

private theorem ownRequest_asks : AsksOwn ownRequest (cityColumn "oslo") "oslo" where
  columns := ⟨[cityColumn "oslo"], by rfl, by rfl⟩
  keyword := rfl
  text := rfl

private theorem overallRequest_asks : AsksOverall overallRequest (cityColumn "") "oslo" where
  columns := ⟨[cityColumn ""], by rfl, by rfl⟩
  keyword := rfl

private theorem oslo_solid : ∀ c ∈ "oslo".toList, Text.isBlank c = false := by
  have each : ("oslo".toList.all fun c => !Text.isBlank c) = true := by decide +kernel
  exact fun c member => by simpa using List.all_eq_true.mp each c member

private def orders : Query :=
  Query.ofSelect { Select.empty with source := some (.table ⟨"orders", none⟩) } .sqlite false

private theorem orders_fresh (cityKey : String) :
    orders.FreshPath (deliveries cityKey) "customer.city" "orders" (toCity cityKey) where
  source := rfl
  walked := rfl
  distinct := by
    have apart : ["orders", "customers", "cities"].Nodup := by decide
    exact apart
  fresh _ _ := List.not_mem_nil
  named := by
    have some : "cities" ≠ "" := by decide
    exact some

private def unshipped : Cond := .atom (.isNull (.column "orders" "shipped") false)

private def pending : Searching := ⟨orders.add .and unshipped, false⟩

private def sqlite : Reader := ⟨.sqlite, fun _ => []⟩

private theorem pending_composed : pending.query.Composed sqlite [(.and, .cond unshipped)] where
  formed := by
    refine ⟨?_, Nat.one_pos⟩
    exact (Query.formed_ofSelect Select.empty .sqlite false).closed.add 0 .and (by simp)
  root := .intro trivial (.cond _ _ .nil)
  apart := List.forall_mem_singleton.mpr ((show unshipped.Test from trivial).safe sqlite).1
  steady := List.forall_mem_singleton.mpr ((show unshipped.Test from trivial).safe sqlite).2
  base := by rintro _ ⟨⟩

theorem searches_keep_alike_cities :
    ∃ searched found, (citySearch "customers.city_id" ownRequest).runOwn pending = (.ok ⟨⟩, searched) ∧
      (citySearch "customers.city_id" overallRequest).runGlobal pending = (.ok ⟨⟩, found) ∧
      ∀ {Cell : Type} (contents : Contents Cell) (row : TableRow Cell),
        searched.query.Keeps contents sqlite row ↔ found.query.Keeps contents sqlite row := by
  have fresh := orders_fresh "customers.city_id"
  have later : pending.query.FreshPath (citySearch "customers.city_id" ownRequest).registry "customer.city" "orders"
      (toCity "customers.city_id") := ⟨fresh.source, fresh.walked, fresh.distinct, fresh.fresh, fresh.named⟩
  have chained : Relation.Chained pending.query.adapter "orders" (toCity "customers.city_id") := by
    refine ⟨⟨trivial, List.forall_mem_nil _⟩, ⟨trivial, List.forall_mem_singleton.mpr ?_⟩, trivial⟩
    exact ⟨"customers.city_id", .head _, by decide +kernel⟩
  have dialect : pending.query.adapter.dialect ∈ Dialect.all := show Dialect.sqlite ∈ Dialect.all by simp [Dialect.all]
  obtain ⟨searched, found, ran, ran', readable, alike⟩ := searches_keep_alike pending_composed dialect later chained
    (cityColumn_plain ..) (cityColumn_plain ..) rfl ownRequest_asks overallRequest_asks (by decide) oslo_solid
  obtain ⟨ownFilter, overallFilter, made, made'⟩ := readable ⟨trivial, trivial⟩ (by decide)
  refine ⟨searched, found, ran, ran', fun contents row => ?_⟩
  refine alike ownFilter overallFilter made made' contents row fun scope start => ?_
  refine pending_composed.blind (Dialect.all_separate _ dialect) ?_ ?_ ?_ start
  · have apart : ∀ table ∈ ["orders"], table ∉ ["customers", "cities"] := by decide
    exact apart
  · rintro _ ⟨⟩
  · have own : (Expr.column "orders" "shipped").NamesOnly pending.query.adapter ["orders"] := ⟨"orders", .head _, rfl⟩
    exact ⟨own, trivial⟩

private def cityRow : TableRow Nat := fun name => List.lookup name [("id", 1), ("twin_id", 1), ("name", 7)]

private def soldRow : TableRow Nat := fun name => List.lookup name [("customer_id", 3)]

/-- A city that is its own twin, and no customers. -/
private def atlas : Contents Nat where
  rows table := if table = "cities" then [cityRow] else []
  same first second := decide (first = second)
  same_comm _ _ := decide_eq_decide.mpr eq_comm
  lower cell := cell
  cast _ cell := some cell
  compares _ _ cell := .ofBool (cell == 7)
  isTruth _ _ := .unknown
  member _ _ _ := .unknown
  regexp _ _ _ := .unknown
  regexpLike _ _ _ := .unknown
  text _ _ := none
  raw _ _ := .unknown

private theorem orders_composed : orders.Composed sqlite [] where
  formed := Query.formed_ofSelect ..
  root := .intro trivial .nil
  apart := by rintro _ ⟨⟩
  steady := by rintro _ ⟨⟩
  base := by rintro _ ⟨⟩

private theorem deliveries_keyed :
    (deliveries "cities.twin_id").Each fun table relation => relation.KeysWithin orders.adapter table := by
  apply Registry.each_of_tables
  have customers : (Relation.belongsTo "customers" "orders.customer_id" "customers.id").KeysWithin orders.adapter
      "orders" := ⟨by decide +kernel, nofun⟩
  have cities : (Relation.belongsTo "cities" "cities.twin_id" "cities.id").KeysWithin orders.adapter "customers" :=
    ⟨by decide +kernel, nofun⟩
  simpa [deliveries] using ⟨customers, cities⟩

/-- Where a city is joined by its twin alone, one is joined to an order without a customer. -/
theorem searches_differ_twins :
    let registry := deliveries "cities.twin_id"
    ∃ searched found, (citySearch "cities.twin_id" ownRequest).runOwn ⟨orders, false⟩ = (.ok ⟨⟩, searched) ∧
      (citySearch "cities.twin_id" overallRequest).runGlobal ⟨orders, false⟩ = (.ok ⟨⟩, found) ∧
      orders.FreshPath registry "customer.city" "orders" (toCity "cities.twin_id") ∧
      registry.Each (fun table relation => relation.KeysWithin orders.adapter table) ∧
      searched.query.Keeps atlas sqlite soldRow ∧ ¬ found.query.Keeps atlas sqlite soldRow := by
  intro registry
  have fresh := orders_fresh "cities.twin_id"
  have inside := orders_composed.formed.root
  let test := Cond.atom ((citySearch "cities.twin_id" ownRequest).tableTest orders.adapter "cities" "name" "oslo")
  let related := (Relation.belongsTo "customers" "orders.customer_id" "customers.id").existsThrough orders.adapter
    (some test) [.belongsTo "cities" "cities.twin_id" "cities.id"]
  have safe : test.Safe sqlite := tableTest_safe ..
  have ran : (citySearch "cities.twin_id" ownRequest).runOwn ⟨orders, false⟩ = _ :=
    runOwn_plain (cityColumn_plain "cities.twin_id" "oslo" ownRequest) ownRequest_asks fresh.source fresh.walked
  have ran' : (citySearch "cities.twin_id" overallRequest).runGlobal ⟨orders, false⟩ = _ :=
    runGlobal_plain (cityColumn_plain "cities.twin_id" "" overallRequest) overallRequest_asks rfl
      (Config.terms_single _ (by decide) oslo_solid) fresh.source fresh.walked fresh.named
  have joins := fresh.adds_joins inside "name" test
  have nests := Query.adds_group inside related
  obtain ⟨ownFilter, made⟩ := orders_composed.readable joins ⟨trivial, trivial⟩ (by decide)
  obtain ⟨overallFilter, made'⟩ := orders_composed.readable nests ⟨⟨trivial, trivial⟩, trivial⟩ (by decide)
  refine ⟨_, _, ran, ran', fresh, deliveries_keyed, ?_, ?_⟩
  · obtain ⟨final, joined, yes⟩ : ∃ final ∈ atlas.joinScopes sqlite orders.adapter [⟨"orders", soldRow⟩]
        ((toCity "cities.twin_id").flatMap (Relation.joins orders.adapter)),
        test.value sqlite (atlas.assignment sqlite orders.adapter final) = .yes := by decide +kernel
    apply (orders_composed.keeps_iff joins safe.1 (fun _ same => Option.some.inj same ▸ safe.2) fresh.source made).mpr
    exact ⟨_, .head _, final, joined, nofun, yes⟩
  · intro kept
    have no : related.value sqlite (atlas.assignment sqlite orders.adapter [⟨"orders", soldRow⟩]) ≠ .yes := by
      decide +kernel
    have guarded : (PredicateTree.group [(.or, .cond related)]).Guarded sqlite :=
      Forest.guarded_or (List.forall_mem_singleton.mpr rfl)
        (List.forall_mem_singleton.mpr (Relation.existsThrough_safe (some test) _ _).1)
    obtain ⟨scope, start, final, same, _, passes⟩ :=
      (orders_composed.keeps_iff nests guarded (PredicateTree.group_steady _) fresh.source made').mp kept
    obtain rfl := List.mem_singleton.mp same
    obtain rfl := List.mem_singleton.mp start
    exact no passes

end Search

end DataGrid
