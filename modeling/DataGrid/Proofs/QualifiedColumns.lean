import DataGrid.Proofs.ColumnNames
import DataGrid.Proofs.EntryOrigins
import DataGrid.Proofs.PathSearches
import DataGrid.Proofs.ScopeAgreement

/-! Columns that the searches qualify. The test of a plain or a JSON column names the table that the column is taken
from: the main table, or the last one on its path. So it says the same of a row whatever other tables are joined. A sort
column is written as the request spells it, and it is the database that looks for it. -/

namespace DataGrid

open Sql

/-- A test of a column of one table: it looks at that column, apart from a fallback. Where the column is plain, its
table gives it the row to look at, whatever other tables are joined later and whatever stands outside. -/
structure Search.Pins (adapter : Adapter) (column : Column) (table name : String) (test : Cond) : Prop where
  reads : ∀ read, read ∉ fallbackNames column.jsonPath column.fallback →
    (test.Reads adapter read ↔ read = table ++ "." ++ name)
  steady : column.jsonPath = .null → ∀ {Cell : Type} (contents : Contents Cell) (reader : Reader) (row : TableRow Cell)
    (joined outer : List (Frame Cell)), (∀ frame ∈ joined, frame.table ≠ table) →
      test.value reader (contents.assignment reader adapter (joined ++ ⟨table, row⟩ :: outer)) =
        test.value reader (contents.assignment reader adapter [⟨table, row⟩])

namespace Query

variable {query : Query} {main : String}

theorem joinPath_leads (source : query.mainTable? = some main) {registry : Registry} {path column name : String}
    (reached : (query.joinPath registry path column).map Prod.fst = .ok name) :
    ∃ relations, registry.walk (some main) path = .ok relations ∧
      name = Relation.leads main relations ++ "." ++ column := by
  obtain ⟨⟨_, joined⟩, done, rfl⟩ := Except.map_ok reached
  obtain ⟨relations, walked, same⟩ := Except.bind_ok done
  cases same
  rw [source] at walked
  refine ⟨relations, walked, ?_⟩
  obtain ⟨first, rest, rfl⟩ := List.exists_cons_of_ne_nil (Registry.walk_ne_nil walked)
  rw [Relation.leads_last, List.getLast?_eq_some_getLast (List.cons_ne_nil _ _)]
  rfl

end Query

namespace Contents

variable {Cell : Type} {adapter : Adapter}

/-- A table shows the same row alone as among others that are joined later, or stand outside. -/
theorem agree_alone (separates : adapter.dialect.Separates) (table : String) (row : TableRow Cell)
    (joined outer : List (Frame Cell)) (apart : ∀ frame ∈ joined, frame.table ≠ table) :
    Agree adapter [table] (joined ++ ⟨table, row⟩ :: outer) [⟨table, row⟩] := by
  intro other member
  obtain rfl := List.mem_singleton.mp member
  refine ⟨row, (rowOf?_append fun frame beside same => ?_).trans rowOf?_head, rowOf?_head⟩
  exact apart frame beside (Dialect.identifier_injective separates same)

end Contents

namespace Search

variable {search : Search} {config : Config} {query : Query} {column : Column} {keyword : String}

theorem columnTest_pins (delimits : query.adapter.dialect.Delimits) {called table name : String} {given : Option String}
    {test : Cond} (made : columnTest config query column called keyword given = .ok test)
    (named : query.qualified called given = table ++ "." ++ name) (undotted : '.' ∉ name.toList) :
    Pins query.adapter column table name test where
  reads read own := by
    rw [columnTest_reads delimits made, named, List.mem_cons]
    exact or_iff_left own
  steady json Cell contents reader row joined outer apart := by
    cases columnTest_tests made with
    | plain =>
      rw [plainTest, named]
      have names := like_names (Adapter.owner_column delimits.toSeparates table undotted) config (config.pattern keyword)
      exact (Contents.agree_alone delimits.toSeparates table row joined outer apart).value names
    | path some | either some => exact absurd json some

/-- A bare column is tested in the main table, and one behind relations in the last table of its path. -/
theorem automaticTest_pins (delimits : query.adapter.dialect.Delimits) {main : String}
    (source : query.mainTable? = some main) (named : main ≠ "") {test : Cond}
    (made : search.automaticTest query column keyword = .ok test) :
    ('.' ∉ column.name.toList → Pins query.adapter column main column.name test) ∧
      ∀ path name, search.paths.split? column.name = some (path, name) →
        ∃ first rest inner, search.registry.walk (some main) path = .ok (first :: rest) ∧
          test = first.existsThrough query.adapter (some inner) rest ∧
          Pins query.adapter column
            (if Relation.leads main (first :: rest) = "" then main else Relation.leads main (first :: rest))
            name inner := by
  unfold automaticTest at made
  constructor
  · intro undotted
    rw [PathSet.split?_bare _ undotted] at made
    exact columnTest_pins delimits made (Query.qualified_main source named undotted) undotted
  · intro path name split
    rw [split] at made
    obtain ⟨relations, walked, made⟩ := Except.bind_ok made
    cases relations with
    | nil => cases made
    | cons first rest =>
      obtain ⟨inner, tested, same⟩ := Except.bind_ok made
      cases same
      obtain ⟨inner, done, rfl⟩ := Except.map_ok tested
      rw [source] at walked
      have undotted : '.' ∉ name.toList := by simpa using PathSet.split?_undotted split
      refine ⟨first, rest, inner, walked, rfl, columnTest_pins delimits done ?_ undotted⟩
      rw [← Relation.leads_last main]
      split
      · next nameless =>
        have given : query.qualified name (some "") = query.qualified name none := rfl
        rw [nameless, given, Query.qualified_main source named undotted]
      · next given => exact query.qualified_table given undotted

theorem ownTest_pins (delimits : query.adapter.dialect.Delimits) {main called : String}
    (source : query.mainTable? = some main) (named : main ≠ "") (text : column.isRegex = false) {test : Cond}
    (reached : search.reachedName query column = .ok called) (made : search.ownTest query column called = .ok test) :
    ('.' ∉ column.name.toList → Pins query.adapter column main column.name test) ∧
      ∀ path name, search.paths.split? column.name = some (path, name) →
        ∃ relations, search.registry.walk (some main) path = .ok relations ∧
          Pins query.adapter column (Relation.leads main relations) name test := by
  have tested : columnTest search.config query column called column.searchValue none = .ok test := by
    rw [ownTest, text] at made
    exact made
  unfold reachedName reach at reached
  constructor
  · intro undotted
    rw [PathSet.split?_bare _ undotted] at reached
    cases reached
    exact columnTest_pins delimits tested (Query.qualified_main source named undotted) undotted
  · intro path name split
    rw [split] at reached
    obtain ⟨relations, walked, rfl⟩ := Query.joinPath_leads source reached
    refine ⟨relations, walked, columnTest_pins delimits tested (query.qualified_within _ _ _) ?_⟩
    simpa using PathSet.split?_undotted split

end Search

namespace Refresh

/-- A column is searched under its table, however the search ends and whatever is joined for other columns. -/
theorem searches_qualify (refresh : Refresh) (known : refresh.query.adapter.dialect ∈ Dialect.all) {main : String}
    (source : refresh.query.mainTable? = some main) (named : main ≠ "") (free : refresh.searches = [])
    (unordered : refresh.orders = []) (unscripted : refresh.orderScript = none) :
    (∀ id junction test, (junction, .cond test) ∈ (globalSearch refresh).2.query.store.entries id →
      (junction, .cond test) ∈ refresh.query.store.entries id ∨
        ∃ column, refresh.search.Asks column ∧
          ('.' ∉ column.name.toList → Search.Pins refresh.query.adapter column main column.name test) ∧
          ∀ path name, refresh.paths.split? column.name = some (path, name) →
            ∃ first rest inner, refresh.registry.walk (some main) path = .ok (first :: rest) ∧
              test = first.existsThrough refresh.query.adapter (some inner) rest ∧
              Search.Pins refresh.query.adapter column
                (if Relation.leads main (first :: rest) = "" then main else Relation.leads main (first :: rest)) name
                inner) ∧
    (∀ id junction test, (junction, .cond test) ∈ (columnSearch refresh).2.query.store.entries id →
      (junction, .cond test) ∈ refresh.query.store.entries id ∨
        ∃ column, refresh.search.Asks column ∧ (column.isRegex = false →
          ('.' ∉ column.name.toList → Search.Pins refresh.query.adapter column main column.name test) ∧
          ∀ path name, refresh.paths.split? column.name = some (path, name) →
            ∃ relations, refresh.registry.walk (some main) path = .ok relations ∧
              Search.Pins refresh.query.adapter column (Relation.leads main relations) name test)) ∧
    ((orderRows refresh).2.query.sorts = refresh.query.sorts ∨
      ∃ term name sql, refresh.request.orderTerm? = .ok (some term) ∧
        RowOrder.Writes refresh.config refresh.query.adapter name term (directionWord term.descending) sql ∧
        (orderRows refresh).2.query.sorts = refresh.query.sorts ++ [.text sql] ∧
        (refresh.paths.split? term.column = none → name = term.column) ∧
        ∀ path column, refresh.paths.split? term.column = some (path, column) →
          ∃ relations, refresh.registry.walk (some main) path = .ok relations ∧
            name = Relation.leads main relations ++ "." ++ column) := by
  have delimits := Dialect.all_delimit _ known
  refine ⟨?_, ?_, ?_⟩
  · intro id junction test member
    rcases (globalSearch_gains refresh).store id _ member with there | origin
    · exact .inl there
    · cases origin with
      | override _ found =>
        rw [show refresh.search.overrides = [] from free] at found
        cases found
      | test asked _ made =>
        obtain ⟨_, keyword, made⟩ := made
        exact .inr ⟨_, asked, Search.automaticTest_pins delimits source named made⟩
  · intro id junction test member
    rcases (columnSearch_gains refresh).store id _ member with there | origin
    · exact .inl there
    · cases origin with
      | override _ found =>
        rw [show refresh.search.overrides = [] from free] at found
        cases found
      | test asked _ made =>
        obtain ⟨called, reached, made⟩ := made
        exact .inr ⟨_, asked, fun text => Search.ownTest_pins delimits source named text reached made⟩
  · rw [orderRows_query]
    cases refresh.rowOrder.run_ordered refresh.query with
    | kept _ same => exact .inl same
    | script given => cases unscripted.symm.trans given
    | override _ found =>
      rw [show refresh.rowOrder.overrides = [] from unordered] at found
      cases found
    | term asked _ _ reached writes _ added =>
      refine .inr ⟨_, _, _, asked, writes, added, fun bare => ?_, fun path column split => ?_⟩
      · rw [RowOrder.reachedName, show refresh.rowOrder.paths.split? _ = none from bare] at reached
        exact (Except.ok.inj reached).symm
      · rw [RowOrder.reachedName, show refresh.rowOrder.paths.split? _ = some (path, column) from split] at reached
        exact Query.joinPath_leads source reached

/-- A column that is searched by a word of its own, and an order by the bare name of another one. -/
private def parcels (sought : String) : Refresh where
  request := ⟨.object [("columns", .list
      [.object [("data", .text sought), ("searchable", .bool true), ("search", .object [("value", .text "x")])]]),
    ("sort", .object [("sortBy", .text "city"), ("descending", .bool true)])]⟩
  config := {}
  query := .ofSelect { Select.empty with source := some (.table ⟨"parcels", none⟩) } .sqlite false
  registry := ⟨[("parcels", [("sender", .belongsTo "senders" "parcels.sender_id" "senders.id")])]⟩
  paths := ["sender"]

private def statusTest : Cond := .atom (.compare (.lower (.literal "parcels.status")) .like (.text "%x%"))

theorem searches_qualify_status :
    (parcels "status").query.adapter.dialect ∈ Dialect.all ∧ (parcels "status").query.mainTable? = some "parcels" ∧
      (columnSearch (parcels "status")).2.query.store.entries 0 = [(.and, .cond statusTest)] ∧
      ∃ column : Column, column.name = "status" ∧
        Search.Pins (parcels "status").query.adapter column "parcels" "status" statusTest := by
  have known : (parcels "status").query.adapter.dialect ∈ Dialect.all :=
    show Dialect.sqlite ∈ Dialect.all by simp [Dialect.all]
  have searched : (columnSearch (parcels "status")).2.query.store.entries 0 = [(.and, .cond statusTest)] := by rfl
  have added : (.and, .cond statusTest) ∈ (columnSearch (parcels "status")).2.query.store.entries 0 := by
    simp [searched]
  refine ⟨known, rfl, searched, ?_⟩
  obtain there | ⟨column, ⟨_, columns, listed, member⟩, pinned⟩ :=
    (searches_qualify (parcels "status") known rfl (by decide) rfl rfl rfl).2.1 0 .and statusTest added
  · cases there
  · have read : (parcels "status").search.request.columns.map (·.map fun column => (column.name, column.isRegex)) =
        .ok [("status", false)] := by rfl
    rw [listed] at read
    have among : (column.name, column.isRegex) ∈ [("status", false)] :=
      Except.ok.inj read ▸ List.mem_map_of_mem member
    obtain ⟨name, text⟩ := Prod.mk.inj (List.mem_singleton.mp among)
    have pins := (pinned text).1 (by rw [name]; decide)
    exact ⟨column, name, name ▸ pins⟩

/-- The sort column stays bare, although a table is joined for a column that is searched. -/
theorem orderRows_bare :
    (parcels "sender.name").query.mainTable? = some "parcels" ∧ (parcels "sender.name").searches = [] ∧
      (parcels "sender.name").orders = [] ∧ (parcels "sender.name").orderScript = none ∧
      ((orderRows (columnSearch (parcels "sender.name")).2).2.query.select >>= Select.placeholderSql .sqlite).toOption =
        some ("SELECT \nFROM parcels LEFT OUTER JOIN senders ON parcels.sender_id = senders.id \n" ++
          "WHERE lower(senders.name) LIKE ? ORDER BY city desc") ∧
      (parcels "sender.name").query.adapter.quoteIdentifier "parcels.city" = "parcels.city" :=
  ⟨rfl, rfl, rfl, rfl, by decide +kernel, by decide⟩

end Refresh

end DataGrid
