import DataGrid.Proofs.FilterComposition
import DataGrid.Proofs.RefreshCounts
import DataGrid.Proofs.ToOneRelations

/-! How often a refresh returns the rows of its base. Tables are joined on both sides of the count, before it for a
search and behind it for an order; where each join finds one row at most, no row is repeated and the count is that of
the rows fetched. -/

namespace DataGrid

open Sql

variable {Cell : Type}

namespace World

variable {world : World Cell} {base kept final : Select}

theorem admits_iff {filter : Option Cond} {scope : List (Frame Cell)}
    (whole : ∀ condition ∈ filter, condition.Whole world.reader) :
    world.admits filter scope = true ↔
      Accepts world.reader (world.contents.assignment world.reader world.adapter scope) filter := by
  rw [accepts_iff whole]
  cases filter with
  | none => exact iff_of_true rfl rfl
  | some condition => exact Contents.passes_iff (whole condition rfl)

/-- Conditions that are kept apart let no row pass that the base does not. -/
theorem admits_base {forest : Forest} {scope : List (Frame Cell)}
    (sheltered : Sheltered world.reader base.filter forest)
    (passed : world.admits (Clause.filter? base.filter forest.clause?) scope = true) :
    world.admits base.filter scope = true := by
  have whole : ∀ condition ∈ Clause.filter? base.filter forest.clause?, condition.Whole world.reader :=
    Clause.filter_whole sheltered.safe fun clause found =>
      ⟨sheltered.guarded.whole clause found, fun present => sheltered.steady present clause found⟩
  have accepted := (admits_iff whole).mp passed
  rw [Forest.accepts sheltered.safe sheltered.guarded sheltered.steady] at accepted
  exact (admits_iff fun condition member => (sheltered.safe condition member).1).mpr accepted.1

variable [DecidableEq Cell]

/-- Whether the numbers that a database has ready are those of the rows of some statements, in their order. -/
def Answers (world : World Cell) : (scalars : List Value) → List Select → Prop
  | _, [] => True
  | scalars, statement :: rest =>
    Database.number (scalars.headD .null) = .ok (world.size statement : Int) ∧ Answers world (scalars.drop 1) rest

/-- A statement that is not arranged by its select list has as many rows with one constant in place of the list. -/
theorem size_mark {dialect : Dialect} {statement : Select} (unarranged : ¬ statement.Arranged dialect)
    (uncounted : .rowCount ∉ statement.items) :
    world.size { statement with items := [.rowMark] } = world.size statement := by
  refine size_eq ⟨rfl, rfl, rfl, by simpa using uncounted, rfl, rfl⟩ rfl fun distinct => ?_
  exact (unarranged (.inl distinct)).elim

end World

/-- The statement whose rows are counted for a query has as many as that of the query. -/
theorem Query.countSelect_size [DecidableEq Cell] (world : World Cell) {query : Query} {statement counted : Select}
    (made : query.select = .ok statement) (returned : query.countSelect = .ok counted)
    (uncounted : .rowCount ∉ statement.items) :
    ∃ inner, counted = inner.counting ∧ world.size inner = world.size statement := by
  obtain ⟨kept, _, arranged, wrapped⟩ := countSelect_ok made returned
  refine ⟨_, wrapped, ?_⟩
  cases kept with
  | true => rfl
  | false => exact World.size_mark (fun blocked => nomatch arranged blocked) uncounted

namespace Refresh

variable {before after : Refresh} {base kept final : Select} {parts : List Forest}

/-- The course of a refresh in which no script takes part, by the statements of its stages. -/
theorem run_stages {answer : Answer} (fresh : before.Fresh base) (unscripted : before.Unscripted)
    (ran : run before = (.ok answer, after)) :
    ∃ database counted kept final fetched, before.database = some database ∧
      before.query.countSelect = .ok counted ∧ Database.number (database.scalars.headD .null) = .ok answer.total ∧
      (∃ offset limit, fetched = { final with offset := offset, limit := limit }) ∧
      (answer.total = 0 ∧ kept = base ∧ final = base ∨ answer.total ≠ 0 ∧
        { before with total := some answer.total, database := some (database.asked counted) }.Stages kept final) ∧
      (kept = base ∧ answer.filtered = some answer.total ∧ after.sent = database.sent ++ [counted, fetched] ∨
        ∃ (query : Query) (again : Select) (filtered : Int), query.select = .ok kept ∧ query.countSelect = .ok again ∧
          (∃ added, base.Widens kept added) ∧
          Database.number ((database.scalars.drop 1).headD .null) = .ok filtered ∧ answer.filtered = some filtered ∧
          after.sent = database.sent ++ [counted, again, fetched]) := by
  have bare := fresh.bare
  obtain ⟨unbound, unlimited⟩ : before.query.offset = .null ∧ before.query.limit = .null := by
    obtain ⟨dialect, oracle, same⟩ := fresh.query
    exact same ▸ ⟨rfl, rfl⟩
  obtain ⟨database, counted, fetched, ready, bound, returned, number, selected, same, course⟩ := run_course fresh ran
  obtain ⟨none, filtered, unchanged, sent⟩ | ⟨found, passed, left, ordered, through, filters, query, orders, paged,
    counting⟩ := course
  · rw [unchanged] at selected
    obtain rfl : base = fetched := Except.ok.inj (bare.select.symm.trans selected)
    exact ⟨database, counted, base, base, base, bound, returned, number, ⟨base.offset, base.limit, by cases base; rfl⟩,
      .inl ⟨none, rfl, rfl⟩, .inl ⟨rfl, none ▸ filtered, sent⟩⟩
  · obtain ⟨settings, searched⟩ := filterRows_widens (by exact unscripted) filters
    obtain ⟨sorted, _⟩ := orderRows_widens settings.1 orders
    obtain ⟨offset, limit, window⟩ := pageIfAsked_ok paged
    rw [window] at selected
    obtain ⟨final, made', windowed⟩ := Query.select_windowed (sorted.offset.trans (searched.offset.trans unbound))
      (sorted.limit.trans (searched.limit.trans unlimited)) selected
    obtain ⟨_, untouched, filtered, sent⟩ | ⟨_, again, recounted, counts', number', filtered, sent⟩ := counting
    · have made : left.query.select = .ok base := query ▸ (untouched.bare (by exact bare)).select
      exact ⟨database, counted, base, final, fetched, bound, returned, number, windowed,
        .inr ⟨found, left, ordered, filters, orders, made, made'⟩, .inl ⟨rfl, filtered, sent⟩⟩
    · obtain ⟨kept, counts⟩ := Query.counts_of_ok counts'
      have made : left.query.select = .ok kept := query ▸ counts.select
      exact ⟨database, counted, kept, final, fetched, bound, returned, number, windowed,
        .inr ⟨found, left, ordered, filters, orders, made, made'⟩, .inr ⟨passed.query, again, recounted, counts.select,
        counts', searched.select (by exact bare.select) made, number', filtered, sent⟩⟩

section Rows
variable [DecidableEq Cell] {world : World Cell}

theorem Stages.repeatsNone (stages : before.Stages kept final)
    (start : ∃ dialect oracle, before.query = .ofSelect base dialect oracle) (unscripted : before.Unscripted)
    (planned : before.parts = .ok parts) (sheltered : Sheltered world.reader base.filter parts.flatten)
    (once : world.JoinsOnce base kept final) : world.RepeatsNone base kept final := by
  obtain ⟨⟨added, search⟩, ⟨later, order⟩, same, filter⟩ := stages.widens start unscripted planned
  exact once.repeatsNone search order same fun scope passed => World.admits_base sheltered (filter ▸ passed)

/-- A refresh in which no script takes part, whose conditions are kept apart. Where its joins find one row at most each,
no row of the base is repeated by what a search or an order does to the statement. If the counts that are sent are
answered by the numbers of rows then, the total is that of the base, the filtered count is no more, and the statement
that is fetched has as many rows without the window of the page. -/
theorem run_rows (fresh : before.Fresh base) (unscripted : before.Unscripted) (planned : before.parts = .ok parts)
    (sheltered : Sheltered world.reader base.filter parts.flatten) (uncounted : .rowCount ∉ base.items) :
    (∀ kept final, before.Stages kept final → world.JoinsOnce base kept final → world.RepeatsNone base kept final) ∧
    ∀ answer after, run before = (.ok answer, after) →
      ∃ database kept final first others fetched, before.database = some database ∧
        before.query.countSelect = .ok (Select.counting first) ∧
        (answer.total = 0 ∧ kept = base ∧ final = base ∨ answer.total ≠ 0 ∧
          { before with total := some answer.total, database := some (database.asked (Select.counting first)) }.Stages
            kept final) ∧
        after.sent = database.sent ++ (first :: others).map Select.counting ++ [fetched] ∧
        (∃ offset limit, fetched = { final with offset := offset, limit := limit }) ∧
        (world.JoinsOnce base kept final → world.Answers database.scalars (first :: others) →
          world.RepeatsNone base kept final ∧ answer.total = world.size base ∧
            answer.filtered = some (world.size kept : Int)) := by
  refine ⟨fun kept final stages once => stages.repeatsNone fresh.query unscripted planned sheltered once,
    fun answer after ran => ?_⟩
  obtain ⟨database, counted, kept, final, fetched, bound, returned, number, windowed, stages, counting⟩ :=
    run_stages fresh unscripted ran
  have repeats (once : world.JoinsOnce base kept final) : world.RepeatsNone base kept final := by
    obtain ⟨_, rfl, rfl⟩ | ⟨_, stages⟩ := stages
    · exact world.repeatsNone_refl _
    · exact stages.repeatsNone fresh.query unscripted planned sheltered once
  obtain ⟨first, rfl, whole⟩ := Query.countSelect_size world fresh.bare.select returned uncounted
  have total {others : List Select} (answers : world.Answers database.scalars (first :: others)) :
      answer.total = world.size base := by
    rw [← whole]
    exact Except.ok.inj (number.symm.trans answers.1)
  obtain ⟨rfl, filtered, sent⟩ | ⟨_, _, _, selected, counts, ⟨_, search⟩, number', filtered, sent⟩ := counting
  · refine ⟨database, kept, final, first, [], fetched, bound, returned, stages, by simpa using sent, windowed,
      fun once answers => ⟨repeats once, total answers, ?_⟩⟩
    rw [filtered, total answers]
  · obtain ⟨entries, listed, plain⟩ := search.items
    have uncounted' : .rowCount ∉ kept.items := by
      rw [listed, List.mem_append]
      exact fun either => either.elim uncounted plain
    obtain ⟨second, rfl, whole'⟩ := Query.countSelect_size world selected counts uncounted'
    refine ⟨database, kept, final, first, [second], fetched, bound, returned, stages, by simpa using sent, windowed,
      fun once answers => ⟨repeats once, total answers, ?_⟩⟩
    rw [filtered, ← whole']
    exact congrArg some (Except.ok.inj (number'.symm.trans answers.2.1))

end Rows

private def listed (main : String) : Select := { Select.empty with source := some (.table ⟨main, none⟩) }

/-- A search in one column behind a relation, and an order by another one. -/
private def listing (main : String) (relations : List (String × Relation)) (sought sorted : String) : Refresh where
  request := ⟨.object [("draw", .int 1), ("sort", .object [("sortBy", .text sorted)]), ("columns", .list
    [.object [("data", .text sought), ("searchable", .bool true), ("search", .object [("value", .text "x")])],
      .object [("data", .text sorted)]])]⟩
  config := {}
  query := Query.ofSelect (listed main) .sqlite false
  registry := ⟨[(main, relations)]⟩
  paths := PathSet.expand (relations.map Prod.fst)
  database := some ⟨[.int 3, .int 2], [], []⟩

private def shipments : Refresh :=
  listing "orders" [("customer", .belongsTo "customers" "orders.customer_id" "customers.id"),
    ("courier", .belongsTo "couriers" "orders.courier_id" "couriers.id")] "customer.name" "courier.name"

private def buyers : Refresh :=
  listing "customers" [("orders", .hasMany "orders" "orders.customer_id" "customers.id")] "orders.name" "orders.name"

private def sameNumber (first second : Nat) : Bool := decide (first = second)

private theorem sameNumber_comm (first second : Nat) : sameNumber first second = sameNumber second first :=
  decide_eq_decide.mpr eq_comm

/-- Two orders of one customer, by two couriers, and an order of nobody. -/
private def depot : World Nat where
  contents := {
    rows := fun table =>
      if table = "orders" then
        [fun name => List.lookup name [("customer_id", 1), ("courier_id", 1), ("name", 7)],
          fun name => List.lookup name [("customer_id", 1), ("courier_id", 2), ("name", 7)], nullRow]
      else if table = "customers" then [fun name => List.lookup name [("id", 1), ("name", 7)]]
      else if table = "couriers" then [fun name => List.lookup name [("id", 1)], fun name => List.lookup name [("id", 2)]]
      else []
    same := sameNumber
    same_comm := sameNumber_comm
    lower := id
    cast := fun _ => some
    compares := fun _ _ cell => .ofBool (cell == 7)
    isTruth := fun _ _ => .unknown
    member := fun _ _ _ => .unknown
    regexp := fun _ _ _ => .unknown
    regexpLike := fun _ _ _ => .unknown
    text := fun _ _ => none
    raw := fun _ _ => .unknown }
  views _ := []
  reader := ⟨.sqlite, fun _ => []⟩
  adapter := shipments.query.adapter

/-- How many rows are counted by a statement that is sent. -/
private def sizeInside (statement : Select) : Nat :=
  match statement.source with
  | some (.derived _ [inner]) => depot.size inner
  | _ => 0

private theorem shipments_toOne : shipments.registry.ToOne depot "orders" := by
  have seek {table key own : String} (unique : depot.contents.UniqueKey depot.adapter table own)
      (here : (depot.adapter.column own).NamesOnly depot.adapter [table])
      (there : (depot.adapter.column key).NamesOnly depot.adapter ["orders"]) (apart : table ≠ "orders") :
      InTurn depot.Seeks ["orders"] ((Relation.belongsTo table key own).joins depot.adapter) :=
    (InTurn.nil _ _).append _ ⟨own, key, _, none, .inr rfl, Contents.untyped, here, unique, there, .head _, apart⟩
  have same_eq (first second : Nat) (same : sameNumber first second = true) : first = second := of_decide_eq_true same
  constructor
  · apply Registry.each_of_tables
    refine List.forall_mem_singleton.mpr (List.forall_mem_cons.mpr ⟨?_, List.forall_mem_singleton.mpr ?_⟩)
    · exact seek (.of_nodup same_eq (by decide +kernel)) (by decide +kernel) (by decide +kernel) (by decide)
    · exact seek (.of_nodup same_eq (by decide +kernel)) (by decide +kernel) (by decide +kernel) (by decide)
  · apply Registry.each_of_tables
    decide

private def soughtName : Atom := .compare (.lower (.literal "customers.name")) .like (.text "%x%")

private theorem shipments_parts : shipments.parts = .ok [[], [], [(.and, .cond (.atom soughtName))], []] := rfl

private theorem shipments_sheltered :
    Sheltered depot.reader none (List.flatten [[], [], [(.and, .cond (.atom soughtName))], []]) := by
  have tests : Forest.Each Cond.Test [(.and, .cond (.atom soughtName))] := ⟨trivial, trivial⟩
  exact ⟨by rintro _ ⟨⟩, tests.apart fun _ structured => structured.safe _, by rintro ⟨⟩⟩

private def shipmentsCounted : Refresh :=
  { shipments with
    total := some 3
    database := some (Database.asked ⟨[.int 3, .int 2], [], []⟩ { listed "orders" with items := [.rowMark] }.counting) }

private theorem shipments_once {kept final : Select} (stages : shipmentsCounted.Stages kept final) :
    depot.JoinsOnce (listed "orders") kept final := by
  have start : ∃ dialect oracle, shipmentsCounted.query = .ofSelect (listed "orders") dialect oracle := ⟨_, _, rfl⟩
  obtain ⟨⟨added, search⟩, _, _, filter⟩ := stages.widens start ⟨rfl, rfl, rfl⟩ shipments_parts
  have separates : depot.adapter.dialect.Separates :=
    Dialect.all_separate _ (show Dialect.sqlite ∈ Dialect.all by simp [Dialect.all])
  refine stages.joinsOnce start ⟨rfl, rfl, rfl⟩ rfl separates rfl shipments_toOne ?_ ?_ (by rintro ⟨⟩)
  · exact ⟨by rintro _ ⟨⟩, List.forall_mem_nil _, by rintro ⟨⟩⟩
  obtain ⟨filtered, _, filters, _, made, _⟩ := stages
  obtain ⟨_, joined⟩ := Query.select_from made
  have customers : kept.joins.map Join.name = ["customers"] := by
    have run : ((filterRows shipmentsCounted).2.query.base.joins ++ (filterRows shipmentsCounted).2.query.joins).map
        Join.name = ["customers"] := by decide +kernel
    rw [filters] at run
    rw [joined, run]
  have tables : "customers" ∈ kept.tables := List.mem_append_right _ (customers ▸ .head _)
  refine ⟨?_, ?_, ?_⟩
  · rw [filter]
    refine fun condition same => Option.some.inj same ▸ ⟨"customers", tables, by decide +kernel⟩
  · rw [search.groups]
    exact List.forall_mem_nil _
  · rw [search.distinct]
    rintro ⟨⟩

private theorem shipments_run : ∃ answer after, run shipments = (.ok answer, after) ∧ answer.total = 3 ∧
    answer.filtered = some 2 ∧ after.sent.map sizeInside = [3, 2, 0] := by
  have evaluated : (run shipments).1.map (fun answer => (answer.total, answer.filtered)) = .ok (3, some 2) ∧
      (run shipments).2.sent.map sizeInside = [3, 2, 0] := by decide +kernel
  cases ran : run shipments with
  | mk outcome after =>
    rw [ran] at evaluated
    obtain ⟨answers, sizes⟩ := evaluated
    obtain ⟨answer, rfl, same⟩ := Except.map_ok answers
    obtain ⟨total, filtered⟩ := Prod.mk.inj same
    exact ⟨answer, after, rfl, total.symm, filtered.symm, sizes⟩

/-- An order is listed once, whatever is joined to it; a customer with two orders is found twice. -/
theorem run_rows_shipments :
    (∃ answer after kept final, run shipments = (.ok answer, after) ∧ depot.RepeatsNone (listed "orders") kept final ∧
      answer.total = 3 ∧ answer.filtered = some (depot.size kept : Int) ∧ answer.filtered = some 2) ∧
    ∃ kept final, buyers.Stages kept final ∧ depot.size (listed "customers") = 1 ∧ depot.size kept = 2 := by
  constructor
  · obtain ⟨answer, after, ran, total, filtered, sizes⟩ := shipments_run
    have fresh : shipments.Fresh (listed "orders") := ⟨⟨_, _, rfl⟩, rfl, rfl⟩
    obtain ⟨_, each⟩ := run_rows fresh ⟨rfl, rfl, rfl⟩ shipments_parts shipments_sheltered (by rintro ⟨⟩)
    obtain ⟨database, kept, final, first, others, fetched, bound, counted, stages, sent, _, rest⟩ := each _ _ ran
    obtain rfl : database = ⟨[.int 3, .int 2], [], []⟩ := Option.some.inj bound.symm
    have known : shipments.query.countSelect = .ok { listed "orders" with items := [.rowMark] }.counting := rfl
    obtain rfl : first = { listed "orders" with items := [.rowMark] } := by
      have same := congrArg Select.source (Except.ok.inj (counted.symm.trans known))
      exact List.singleton_inj.mp (Source.derived.inj (Option.some.inj same)).2
    obtain ⟨none, _⟩ | ⟨_, stages⟩ := stages
    · cases none.symm.trans total
    rw [total] at stages
    have once := shipments_once stages
    rw [sent] at sizes
    obtain ⟨second, rfl⟩ : ∃ second, others = [second] := by
      have two := congrArg List.length sizes
      simp only [List.length_map, List.length_append, List.length_cons, List.length_nil] at two
      exact List.length_eq_one_iff.mp (by omega)
    obtain ⟨one, two, _⟩ : depot.size _ = 3 ∧ depot.size second = 2 ∧ _ := by
      simpa [sizeInside, Select.counting] using sizes
    obtain ⟨rows, _, left⟩ := rest once ⟨by rw [one]; rfl, by rw [two]; rfl, trivial⟩
    exact ⟨answer, _, kept, final, ran, rows, total, left, filtered⟩
  · have passes : (filterRows buyers).1.isOk = true ∧ (orderRows (filterRows buyers).2).1.isOk = true ∧
        (filterRows buyers).2.query.select.map depot.size = .ok 2 ∧
        (orderRows (filterRows buyers).2).2.query.select.isOk = true := by decide +kernel
    obtain ⟨found, sorted, sizes, readable⟩ := passes
    obtain ⟨⟨⟩, filters⟩ := Action.ran_of_isOk found
    obtain ⟨⟨⟩, orders⟩ := Action.ran_of_isOk sorted
    obtain ⟨kept, made, two⟩ := Except.map_ok sizes
    obtain ⟨final, made'⟩ := Except.ok_of_isOk readable
    exact ⟨kept, final, ⟨_, _, filters, orders, made, made'⟩, by decide +kernel, two.symm⟩

end Refresh

end DataGrid
