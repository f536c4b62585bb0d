import DataGrid.Proofs.WidenedQueries

/-! Which tables a run of joins brings into a statement. A table that is recorded as joined is not joined again, so
joins never repeat one another. The table in front of the joins is not recorded, and is introduced once more when a
relation leads to it. Where none does, each name in the `FROM` stands for one row of every scope. -/

namespace DataGrid

open Sql

namespace Sql

/-- Whether a table is in the `FROM` of a statement and not recorded as joined. -/
def Select.Unrecorded (base : Select) (table : String) : Prop :=
  table ∈ base.tables ∧ table ∉ Query.joinedTables base

/-- Where its tables are distinct, a statement leaves out its leading table, and a joined one without a name. -/
theorem Select.unrecorded_iff {base : Select} (distinct : base.tables.Nodup) {table : String} :
    base.Unrecorded table ↔
      base.source.bind Source.name? = some table ∨ (table = "" ∧ table ∈ base.joins.map Join.name) := by
  have recorded : table ∈ Query.joinedTables base ↔ table ∈ base.joins.map Join.name ∧ table ≠ "" := by
    rw [Query.joinedTables, List.mem_filter, bne_iff_ne]
    rfl
  have apart (leading : base.source.bind Source.name? = some table) : table ∉ base.joins.map Join.name := by
    rw [Select.tables, leading] at distinct
    exact (List.nodup_cons.mp distinct).1
  rw [Select.Unrecorded, recorded, Select.tables, List.mem_append, Option.mem_toList]
  constructor
  · rintro ⟨leading | joined, unrecorded⟩
    · exact .inl leading
    · exact .inr ⟨not_not.mp fun named => unrecorded ⟨joined, named⟩, joined⟩
  · rintro (leading | ⟨nameless, joined⟩)
    · exact ⟨.inl leading, fun recorded => apart leading recorded.1⟩
    · exact ⟨.inr joined, fun recorded => recorded.2 nameless⟩

end Sql

namespace JoinRecord

variable {base : Select} {record : JoinRecord} {asked : List Join}

/-- The tables that are asked for and were not recorded are the ones that are joined. -/
theorem name_mem_askAll {name : String} :
    name ∈ (record.askAll asked).joins.map Join.name ↔
      name ∈ record.joins.map Join.name ∨ name ∉ record.joined ∧ name ∈ asked.map Join.name := by
  simp only [List.mem_map, mem_askAll]
  constructor
  · rintro ⟨join, had | ⟨fresh, found⟩, rfl⟩
    · exact .inl ⟨join, had, rfl⟩
    · exact .inr ⟨fresh, join, List.mem_of_find?_eq_some found, rfl⟩
  · rintro (⟨join, had, rfl⟩ | ⟨fresh, join, among, rfl⟩)
    · exact ⟨join, .inl had, rfl⟩
    · obtain ⟨first, found⟩ : ∃ first, asked.find? (·.name == join.name) = some first :=
        Option.isSome_iff_exists.mp (List.find?_isSome.mpr ⟨join, among, beq_self_eq_true _⟩)
      have same : first.name = join.name := by simpa using List.find?_some found
      exact ⟨first, .inr (same ▸ ⟨fresh, found⟩), same⟩

/-- Joins that are asked for repeat a table of the base only if it is not recorded. -/
theorem askAll_nodup (start : record = ⟨Query.joinedTables base, []⟩) :
    (base.tables ++ (record.askAll asked).joins.map Join.name).Nodup ↔
      base.tables.Nodup ∧ ∀ table ∈ asked.map Join.name, ¬ base.Unrecorded table := by
  have sound : record.Sound (Query.joinedTables base) := start ▸ ⟨(List.append_nil _).symm, .nil, nofun⟩
  have joined (name : String) : name ∈ (record.askAll asked).joins.map Join.name ↔
      name ∉ Query.joinedTables base ∧ name ∈ asked.map Join.name := by
    rw [name_mem_askAll, start]
    exact or_iff_right List.not_mem_nil
  have once := (sound.askAll asked).once
  rw [List.nodup_append]
  refine and_congr_right fun _ => ?_
  simp only [once, true_and, joined]
  constructor
  · intro apart table among twice
    exact apart table twice.1 table ⟨twice.2, among⟩ rfl
  · rintro apart table own _ ⟨fresh, among⟩ rfl
    exact apart table among ⟨own, fresh⟩

end JoinRecord

namespace World

variable {Cell : Type} {world : World Cell} {statement : Select}

/-- Whether what stands behind the source of a statement shows its rows under the name of the source. -/
def Opens (world : World Cell) (statement : Select) : Prop :=
  (∀ sql, statement.source ≠ some (.text sql)) ∧
    ∀ scope ∈ world.opened statement.source,
      scope.map Frame.table = (statement.source.bind Source.name?).toList

theorem opens_table {name : TableName} (source : statement.source = some (.table name)) : world.Opens statement := by
  rw [Opens, source]
  refine ⟨fun _ => nofun, fun scope opened => ?_⟩
  obtain ⟨row, _, rfl⟩ := List.mem_map.mp opened
  rfl

/-- Every scope of a statement shows the tables of its `FROM`, the last one first. -/
theorem scope_tables (opens : world.Opens statement) {scope : List (Frame Cell)}
    (made : scope ∈ world.scopes statement) : scope.map Frame.table = statement.tables.reverse := by
  rw [scopes] at made
  split at made
  · next sql text => exact absurd text (opens.1 sql)
  · obtain ⟨alone, opened, made⟩ := List.mem_flatMap.mp made
    obtain ⟨frames, rfl, named⟩ := Contents.joinScopes_tables made
    rw [List.map_append, named, opens.2 alone opened, Select.tables, List.reverse_append]
    congr 1
    cases statement.source.bind Source.name? <;> rfl

/-- Whether the name of each table in a scope stands for the row of that table and no other. -/
def Settled (adapter : Adapter) (scope : List (Frame Cell)) : Prop :=
  ∀ frame ∈ scope, Contents.rowOf? adapter scope (adapter.quoteIdentifier frame.table) = some frame.row

theorem settled_of_nodup {adapter : Adapter} {scope : List (Frame Cell)} (separates : adapter.dialect.Separates)
    (distinct : (scope.map Frame.table).Nodup) : Settled adapter scope := by
  intro frame member
  obtain ⟨before, after, rfl⟩ := List.append_of_mem member
  rw [List.map_append, List.map_cons, List.nodup_append] at distinct
  refine (Contents.rowOf?_append fun other beside same => ?_).trans Contents.rowOf?_head
  exact distinct.2.2 _ (List.mem_map_of_mem beside) _ (.head _) (Dialect.identifier_injective separates same)

end World

namespace JoinCall

/-- Whether a call joins along a path of relations. -/
def AlongPath : JoinCall → Prop
  | .table .. => False
  | .path .. => True

/-- The tables that the joins of a run are asked for, whether they are joined then or not. -/
def tablesAsked (start : Query) (calls : List JoinCall) : List String :=
  (calls.flatMap (asks start)).map Join.name

variable {query : Query}

theorem asks_congr {before after : Query} (alike : Query.Alike before after) (call : JoinCall) :
    call.asks after = call.asks before := by
  cases call with
  | table => rfl
  | path registry along column => rw [asks, asks, Query.mainTable?, alike.base, alike.adapter, Query.mainTable?]

/-- A run asks for the joins of its calls one after the other. -/
theorem runAll_record (query : Query) (calls : List JoinCall) :
    (runAll query calls).record = query.record.askAll (calls.flatMap (asks query)) := by
  induction calls generalizing query with
  | nil => rfl
  | cons call rest ih =>
    have step : runAll query (call :: rest) = runAll (call.run query) rest := rfl
    rw [step, ih, run_record, ← JoinRecord.askAll_append, List.flatMap_cons]
    congr 2
    exact List.flatMap_congr fun later _ => later.asks_congr (run_alike query call)

theorem runAll_widens (query : Query) (calls : List JoinCall) : query.Widens (runAll query calls) := by
  suffices from' : ∀ start, query.Widens start → query.Widens (runAll start calls) from from' _ (.refl _)
  induction calls with
  | nil => exact fun _ widens => widens
  | cons call rest ih =>
    refine fun start widens => ih _ ?_
    cases call with
    | table target on => exact widens.leftJoin target on
    | path registry along column =>
      rw [run]
      split
      · next reached => exact widens.joinPath reached
      · exact widens

/-- Relations are found from the main table, so along paths nothing is joined where there is none. -/
theorem asks_path_nil {call : JoinCall} (along : call.AlongPath) (none : query.mainTable? = none) :
    call.asks query = [] := by
  cases call with
  | table => exact along.elim
  | path registry path column =>
    rw [asks, none, Registry.walk]
    obtain ⟨name, rest, listed⟩ := List.exists_cons_of_ne_nil (Text.splitString_ne_nil '.' path)
    rw [listed]
    rfl

/-- A query has a statement where a table can be joined to its base, as along paths it always can. -/
theorem runAll_select (base : Select) (dialect : Dialect) (oracle : Bool) {calls : List JoinCall}
    (joinable : base.source.isSome = true ∨ ∀ call ∈ calls, call.AlongPath) :
    ∃ statement, (runAll (.ofSelect base dialect oracle) calls).select = .ok statement := by
  have bare : (Query.ofSelect base dialect oracle).Bare base := Query.bare_ofSelect base dialect oracle
  refine (runAll_widens _ calls).select_of_joinable bare.select (runAll_alike _ calls).store ?_
  cases source : base.source with
  | some source => exact .inr (by rw [(runAll_alike _ calls).base]; exact source ▸ rfl)
  | none =>
    rw [source] at joinable
    have along := joinable.resolve_left (by simp)
    have none : (Query.ofSelect base dialect oracle).mainTable? = none := by rw [Query.mainTable?]; exact source ▸ rfl
    refine .inl (congrArg JoinRecord.joins (?_ : (runAll _ calls).record = (Query.ofSelect base dialect oracle).record))
    rw [runAll_record, List.flatMap_eq_nil_iff.mpr fun call member => asks_path_nil (along call member) none]
    rfl

/-- Whatever is joined to a base, along relations or one by one: the tables of its statement are distinct exactly when
those of the base are, and no join was asked for of its leading table, nor of a nameless one that the base has joined.
Where they are distinct, a reference to a table of the `FROM` means one row in every scope. A run along relations always
has a statement. -/
theorem runAll_tables (base : Select) (dialect : Dialect) (oracle : Bool) (calls : List JoinCall) :
    let start := Query.ofSelect base dialect oracle
    let query := runAll start calls
    ((base.source.isSome = true ∨ ∀ call ∈ calls, call.AlongPath) → ∃ statement, query.select = .ok statement) ∧
    ∀ statement, query.select = .ok statement →
      (statement.tables.Nodup ↔ base.tables.Nodup ∧ ∀ table ∈ tablesAsked start calls,
        start.mainTable? ≠ some table ∧ (table = "" → table ∉ base.joins.map Join.name)) ∧
      (statement.tables.Nodup → dialect.Separates → ∀ {Cell : Type} (world : World Cell),
        world.adapter = query.adapter → world.Opens statement →
          ∀ scope ∈ world.scopes statement, World.Settled world.adapter scope) := by
  intro start query
  have alike : Query.Alike start query := runAll_alike start calls
  refine ⟨runAll_select base dialect oracle, fun statement made => ⟨?_, ?_⟩⟩
  · obtain ⟨source, joins⟩ := Query.select_from made
    have added : query.joins = (start.record.askAll (calls.flatMap (asks start))).joins := by
      rw [← runAll_record]
      rfl
    have tables : statement.tables =
        base.tables ++ (start.record.askAll (calls.flatMap (asks start))).joins.map Join.name := by
      rw [← added, Select.tables, Select.tables, source, joins, List.map_append, alike.base, List.append_assoc]
      rfl
    have started : start.record = ⟨Query.joinedTables base, []⟩ := rfl
    rw [tables, JoinRecord.askAll_nodup started]
    refine and_congr_right fun distinct => forall₂_congr fun table _ => ?_
    rw [Select.unrecorded_iff distinct, not_or, not_and]
    rfl
  · intro distinct separates Cell world same opens scope made
    refine World.settled_of_nodup ?_ ?_
    · rw [same, alike.adapter]
      exact separates
    · rw [World.scope_tables opens made]
      exact List.nodup_reverse.mpr distinct

private def categories : Select := { Select.empty with source := some (.table ⟨"categories", none⟩) }

/-- Categories, their parents, and the departments that they belong to. -/
private def shelves : Registry :=
  ⟨[("categories", [("parent", .belongsTo "categories" "categories.parent_id" "categories.id"),
    ("department", .belongsTo "departments" "categories.department_id" "departments.id")])]⟩

/-- Departments are joined beside categories; parents are categories under the name that is there already. -/
theorem runAll_tables_parent :
    let start := Query.ofSelect categories .sqlite false
    let departments : List JoinCall := [.path shelves "department" "name"]
    let parents : List JoinCall := [.path shelves "parent" "name"]
    (∃ statement, (runAll start departments).select = .ok statement ∧
      statement.tables = ["categories", "departments"] ∧ statement.tables.Nodup ∧
      ∀ {Cell : Type} (world : World Cell), world.adapter = start.adapter →
        ∀ scope ∈ world.scopes statement, World.Settled world.adapter scope) ∧
    ∃ statement, (runAll start parents).select = .ok statement ∧
      statement.tables = ["categories", "categories"] ∧ ¬ statement.tables.Nodup := by
  intro start departments parents
  have tables {calls : List JoinCall} {statement : Select} (made : (runAll start calls).select = .ok statement) :
      statement.tables = "categories" :: (runAll start calls).joins.map Join.name := by
    obtain ⟨source, joins⟩ := Query.select_from made
    rw [Select.tables, source, joins, (runAll_alike start calls).base]
    rfl
  have separates : Dialect.sqlite.Separates := Dialect.all_separate _ (by simp [Dialect.all])
  constructor
  · obtain ⟨exists', sound⟩ := runAll_tables categories .sqlite false departments
    obtain ⟨statement, made⟩ := exists' (.inl rfl)
    have joined : statement.tables = ["categories", "departments"] := (tables made).trans (by decide +kernel)
    obtain ⟨distinct, settled⟩ := sound statement made
    have only : tablesAsked start departments = ["departments"] := by decide +kernel
    have once : statement.tables.Nodup := by
      refine distinct.mpr ⟨by decide +kernel, fun table asked => ?_⟩
      obtain rfl := List.mem_singleton.mp (only ▸ asked)
      exact ⟨by decide +kernel, fun nameless => absurd nameless (by decide)⟩
    refine ⟨statement, made, joined, once, fun world same scope => settled once separates world ?_ ?_ scope⟩
    · exact same.trans (runAll_alike start departments).adapter.symm
    · exact World.opens_table ((Query.select_from made).1.trans (by rw [(runAll_alike start departments).base]; rfl))
  · obtain ⟨exists', _⟩ := runAll_tables categories .sqlite false parents
    obtain ⟨statement, made⟩ := exists' (.inl rfl)
    have joined : statement.tables = ["categories", "categories"] := (tables made).trans (by decide +kernel)
    exact ⟨statement, made, joined, by rw [joined]; decide⟩

end JoinCall

end DataGrid
