import DataGrid.Proofs.ColumnNames
import DataGrid.Proofs.EntryOrigins
import DataGrid.Proofs.SortRuns

/-! Columns that are kept out of search and order. A column is kept out under the name that the request has for it; the
search and the order derive other names from that one, of which nobody asks whether they are kept out. So a hidden
column is looked at exactly when one of these names spells it. -/

namespace DataGrid

open Sql

namespace Query

/-- Whether a name spells a column of the main table: alone, or behind the table. -/
def Spells (query : Query) (column name : String) : Prop :=
  name = column ∨ ∃ main, query.mainTable? = some main ∧ name = main ++ "." ++ column

variable {query : Query} {column other name : String}

theorem spells_qualified (undotted : '.' ∉ column.toList) : query.Spells column (query.qualified column none) := by
  cases source : query.mainTable? with
  | none =>
    refine .inl ?_
    simp [qualified, source]
  | some main =>
    by_cases empty : main = ""
    · refine .inl ?_
      simp [qualified, source, empty]
    · exact .inr ⟨main, source, qualified_main source empty undotted⟩

/-- A name spells one column. -/
theorem Spells.unique (plain : '.' ∉ column.toList) (plain' : '.' ∉ other.toList) (one : query.Spells column name)
    (another : query.Spells other name) : column = other := by
  have dotted (main name : String) : '.' ∈ (main ++ "." ++ name).toList := by simp
  rcases one with rfl | ⟨main, found, rfl⟩ <;> rcases another with same | ⟨main', found', same⟩
  · exact same
  · exact absurd (same ▸ dotted main' other) plain
  · exact absurd (same ▸ dotted main column) plain'
  · cases found.symm.trans found'
    have chars := congrArg String.toList same
    simp only [String.toList_append] at chars
    exact String.toList_injective (List.append_cancel_left chars)

end Query

/-- The columns that a sort term is written from: the one that is reached, and its fallback. -/
def RowOrder.names (order : RowOrder) (query : Query) (term : OrderTerm) : List String :=
  match order.reachedName query term with
  | .ok name => name :: fallbackNames term.jsonPath term.fallback
  | .error _ => []

namespace Refresh

/-- Whether a column of the main table is kept out: one of its spellings is on the blacklist, or none of them is on the
whitelist. -/
def Hides (refresh : Refresh) (column : String) : Prop :=
  (∃ name ∈ refresh.blacklist, refresh.query.Spells column name) ∨
    ∃ names, refresh.whitelist = some names ∧ ∀ name ∈ names, ¬ refresh.query.Spells column name

/-- Whether a name spells a column of the main table that is kept out. -/
def Exposes (refresh : Refresh) (name : String) : Prop :=
  ∃ column, '.' ∉ column.toList ∧ refresh.Hides column ∧ refresh.query.Spells column name

/-- Whether a condition looks at a column of the main table that is kept out. -/
def Uncovers (refresh : Refresh) (cond : Cond) : Prop :=
  ∃ name, refresh.Exposes name ∧ cond.Reads refresh.query.adapter name

variable {refresh : Refresh}

theorem excludes_false {column : String} (kept : refresh.excludes column = false) :
    column ∉ refresh.blacklist ∧ ∀ names, refresh.whitelist = some names → column ∈ names := by
  unfold excludes at kept
  obtain ⟨black, white⟩ := Bool.or_eq_false_iff.mp kept
  refine ⟨by simpa using black, fun names given => ?_⟩
  rw [given] at white
  simpa using white

/-- A bare name that is not kept out, neither as it is nor behind the main table. -/
structure BareKept (refresh : Refresh) (column : String) : Prop where
  undotted : '.' ∉ column.toList
  kept : refresh.excludes column = false
  behind : ∀ main, refresh.query.mainTable? = some main → main ++ "." ++ column ∉ refresh.blacklist

/-- Such a name spells none of the hidden columns. -/
theorem BareKept.covered {column : String} (bare : refresh.BareKept column) :
    ∀ name, refresh.query.Spells column name → ¬ refresh.Exposes name := by
  rintro name spelled ⟨other, plain, hides, spells⟩
  obtain rfl := spells.unique plain bare.undotted spelled
  obtain ⟨unlisted, listed⟩ := excludes_false bare.kept
  rcases hides with ⟨spelling, member, rfl | ⟨main, found, rfl⟩⟩ | ⟨names, given, none⟩
  · exact unlisted member
  · exact bare.behind main found member
  · exact none other (listed names given) (.inl rfl)

/-- What search and order look at of a hidden column, in every state and however they end. A condition that is there
after the search over all columns was there before, or comes from the override of a column, or is the test of a column
that is not kept out under the name that the request has for it; this test looks at a hidden column exactly when one of
the names that are derived from the request spells it. Likewise a sort term is written from the name under which the
sort column is reached. Bare names without a fallback spell no hidden column, unless the blacklist has it behind the
main table only. -/
theorem passes_cover (refresh : Refresh) (known : refresh.query.adapter.dialect ∈ Dialect.all) :
    (∀ id junction cond, (junction, .cond cond) ∈ (globalSearch refresh).2.query.store.entries id →
      (junction, .cond cond) ∈ refresh.query.store.entries id ∨
        ∃ column, refresh.search.Asks column ∧
          ((∃ override keyword, refresh.searches.lookup column.name = some override ∧
              override.Adds refresh.query.adapter column.name keyword true (.cond cond)) ∨
            (refresh.searches.lookup column.name = none ∧ refresh.excludes column.name = false ∧
              (refresh.Uncovers cond ↔ ∃ name ∈ refresh.search.names refresh.query column, refresh.Exposes name)))) ∧
    ((orderRows refresh).2.query.sorts = refresh.query.sorts ∨ (∃ script, refresh.orderScript = some script) ∨
      ∃ term, refresh.request.orderTerm? = .ok (some term) ∧
        ((∃ override, refresh.orders.lookup term.column = some override) ∨
          (refresh.orders.lookup term.column = none ∧ refresh.excludes term.column = false ∧
            ∃ name sql, refresh.rowOrder.reachedName refresh.query term = .ok name ∧
              RowOrder.Writes refresh.config refresh.query.adapter name term (directionWord term.descending) sql ∧
              (orderRows refresh).2.query.sorts = refresh.query.sorts ++ [.text sql]))) ∧
    (∀ column : Column, refresh.BareKept column.name → fallbackNames column.jsonPath column.fallback = [] →
      ∀ name ∈ refresh.search.names refresh.query column, ¬ refresh.Exposes name) ∧
    ∀ term : OrderTerm, refresh.BareKept term.column → fallbackNames term.jsonPath term.fallback = [] →
      ∀ name ∈ refresh.rowOrder.names refresh.query term, ¬ refresh.Exposes name := by
  have delimits := Dialect.all_delimit _ known
  refine ⟨?_, ?_, ?_, ?_⟩
  · intro id junction cond member
    rcases (globalSearch_gains refresh).store id _ member with there | origin
    · exact .inl there
    · refine .inr ?_
      cases origin with
      | override asked found adds => exact ⟨_, asked, .inl ⟨_, _, found, adds⟩⟩
      | test asked free made =>
        obtain ⟨kept, keyword, made⟩ := made
        refine ⟨_, asked, .inr ⟨free, kept, ?_⟩⟩
        simp only [Uncovers, Search.automaticTest_reads delimits made, and_comm]
  · rw [orderRows_query]
    cases refresh.rowOrder.run_ordered refresh.query with
    | kept _ same => exact .inl same
    | script given => exact .inr (.inl ⟨_, given⟩)
    | override asked found => exact .inr (.inr ⟨_, asked, .inl ⟨_, found⟩⟩)
    | term asked free kept reached writes _ added =>
      exact .inr (.inr ⟨_, asked, .inr ⟨free, kept, _, _, reached, writes, added⟩⟩)
  · intro column bare alone name member
    have names : refresh.search.names refresh.query column = [refresh.query.qualified column.name none] := by
      rw [Search.names, PathSet.split?_bare _ bare.undotted, alone]
    rw [names, List.mem_singleton] at member
    exact bare.covered name (member ▸ Query.spells_qualified bare.undotted)
  · intro term bare alone name member
    have reached : refresh.rowOrder.reachedName refresh.query term = .ok term.column := by
      rw [RowOrder.reachedName, PathSet.split?_bare _ bare.undotted]
    rw [RowOrder.names, reached, alone] at member
    exact bare.covered name (.inl (List.mem_singleton.mp member))

/-- Two spellings of a column that is kept out as soon as a grid is made. -/
private def accounts : Refresh where
  request := ⟨.object [("columns", .list
      [.object [("data", .text "password"), ("searchable", .bool true)],
        .object [("data", .text "accounts.password"), ("searchable", .bool true)]]),
    ("search", .object [("value", .text "x")]), ("sort", .object [("sortBy", .text "accounts.password")])]⟩
  config := {}
  query := .ofSelect { Select.empty with source := some (.table ⟨"accounts", none⟩) } .sqlite false
  registry := {}
  paths := []

private def passwordTest : Cond := .atom (.compare (.lower (.literal "accounts.password")) .like (.text "%x%"))

private theorem accounts_exposes : accounts.Exposes "accounts.password" := by
  refine ⟨"password", by decide, .inl ⟨"password", by decide, .inl rfl⟩, .inr ⟨"accounts", rfl, by decide⟩⟩

/-- The hidden column is looked at under its second spelling, and only under that one. -/
theorem passes_cover_accounts :
    accounts.query.adapter.dialect ∈ Dialect.all ∧ accounts.excludes "password" = true ∧
      (globalSearch accounts).2.query.store.entries 1 = [(.or, .cond passwordTest)] ∧ accounts.Uncovers passwordTest ∧
      (orderRows accounts).2.query.sorts = [.text "accounts.password asc"] := by
  have known : accounts.query.adapter.dialect ∈ Dialect.all := show Dialect.sqlite ∈ Dialect.all by simp [Dialect.all]
  have searched : (globalSearch accounts).2.query.store.entries 1 = [(.or, .cond passwordTest)] := by rfl
  have hidden : accounts.excludes "password" = true := by decide
  refine ⟨known, hidden, searched, ?_, by rfl⟩
  have added : (.or, .cond passwordTest) ∈ (globalSearch accounts).2.query.store.entries 1 := by simp [searched]
  obtain there | ⟨column, ⟨_, columns, listed, member⟩, ⟨_, _, found, _⟩ | ⟨_, kept, uncovers⟩⟩ :=
    (passes_cover accounts known).1 1 .or passwordTest added
  · cases there
  · cases found
  · refine uncovers.mpr ⟨"accounts.password", ?_, accounts_exposes⟩
    have names : columns.map Column.name = ["password", "accounts.password"] := by
      have read : accounts.search.request.columns.map (·.map Column.name) =
          .ok ["password", "accounts.password"] := by rfl
      rw [listed] at read
      exact Except.ok.inj read
    have plain : column.name = "accounts.password" := by
      have among : column.name ∈ ["password", "accounts.password"] := names ▸ List.mem_map_of_mem member
      rcases List.mem_cons.mp among with first | second
      · rw [first, hidden] at kept
        cases kept
      · exact List.mem_singleton.mp second
    rw [Search.names, plain]
    exact List.mem_cons_self

end Refresh

end DataGrid
