import DataGrid.Proofs.JoinedRows
import DataGrid.Proofs.NameHoles

/-! The two searches for one column behind relations. The one for its own keyword joins the tables along its path and
tests the column of the last one; the one over all columns tests the same column of a related row. -/

namespace DataGrid

open Sql

theorem Text.words_single {chars : List Char} (some : chars ≠ []) (solid : ∀ c ∈ chars, isBlank c = false) :
    words chars = [chars] := by
  suffices within : ∀ current, current ++ chars ≠ [] → wordsFrom current chars = [current.reverse ++ chars] from
    within [] some
  clear some
  induction chars with
  | nil =>
    intro current some
    have filled : current ≠ [] := by simpa using some
    simp [wordsFrom, filled]
  | cons c rest ih =>
    intro current _
    obtain ⟨first, others⟩ := List.forall_mem_cons.mp solid
    rw [wordsFrom, if_neg (by simp [first]), ih others _ (by simp)]
    simp

/-- A keyword without blanks is searched for as it is. -/
theorem Config.terms_single (config : Config) {keyword : String} (some : keyword ≠ "")
    (solid : ∀ c ∈ keyword.toList, Text.isBlank c = false) : config.terms keyword = [keyword] := by
  unfold terms
  split
  · rw [Text.words_single (by simpa using some) solid]
    simp
  · rfl

theorem Query.qualified_table (query : Query) {table name : String} (named : table ≠ "") (plain : '.' ∉ name.toList) :
    query.qualified name (some table) = table ++ "." ++ name := by
  have undotted : name.toList.contains '.' = false := by simpa using plain
  have given : (some table).filter (· != "") = some table := by simp [named]
  simp only [qualified, undotted, given, Option.some_or, named]
  rfl

namespace Search

/-- A column behind relations that is searched by nothing but its name. -/
structure Plain (search : Search) (path name : String) (column : Column) : Prop where
  split : search.paths.split? column.name = some (path, name)
  json : column.jsonPath = .null
  own : search.overrides.lookup column.name = none

/-- A request with a keyword for a single column. -/
structure AsksOwn (request : Request) (column : Column) (keyword : String) : Prop where
  columns : ∃ columns, request.columns = .ok columns ∧
    columns.filter (fun column => column.searchable && column.searchValue != "") = [column]
  keyword : column.searchValue = keyword
  text : column.isRegex = false

/-- A request with a keyword for all columns, of which a single one is searched. -/
structure AsksOverall (request : Request) (column : Column) (keyword : String) : Prop where
  columns : ∃ columns, request.columns = .ok columns ∧ columns.filter (·.searchable) = [column]
  keyword : request.keyword = .ok keyword

/-- The test of a column of a table. -/
def tableTest (search : Search) (adapter : Adapter) (table name keyword : String) : Atom :=
  like search.config adapter (adapter.column (table ++ "." ++ name)) (search.config.pattern keyword)

variable {search : Search} {column : Column} {path name keyword : String} {relations : List Relation}
  {start : Searching}

/-- A pattern is looked for in the table of the expression. -/
theorem like_names {adapter : Adapter} {expression : Expr} {table : String}
    (owner : expression.owner? adapter = some (adapter.quoteIdentifier table)) (config : Config) (pattern : String) :
    (like config adapter expression pattern).NamesOnly adapter [table] := by
  have cast : (adapter.castText expression).owner? adapter = some (adapter.quoteIdentifier table) := by
    unfold Adapter.castText
    split
    · exact owner
    · split <;> exact owner
  refine ⟨table, .head _, ?_⟩
  split <;> exact cast

theorem tableTest_safe (search : Search) (reader : Reader) (adapter : Adapter) (table name keyword : String) :
    (Cond.atom (search.tableTest adapter table name keyword)).Safe reader :=
  (show (Cond.atom (search.tableTest adapter table name keyword)).Test from trivial).safe reader

/-- A row that is missing does not pass the test of its table. -/
theorem tableTest_missing {Cell : Type} {contents : Contents Cell} {reader : Reader} {adapter : Adapter}
    {scope : List (Frame Cell)} {table : String} (separates : adapter.dialect.Separates) (plain : '.' ∉ name.toList)
    (missing : Contents.Missing adapter scope table) :
    (Cond.atom (search.tableTest adapter table name keyword)).value reader (contents.assignment reader adapter scope) ≠
      .yes := by
  have names := like_names (Adapter.owner_column separates table plain) search.config (search.config.pattern keyword)
  have value (expression : Expr) (pattern : Value) :
      (Cond.atom (.compare expression .like pattern)).value reader (contents.assignment reader adapter scope) =
        (contents.cell adapter scope expression).elim .unknown (contents.compares .like pattern) := rfl
  rw [tableTest, like, value, missing.cell names]
  nofun

/-- A column without an override has its tables joined and its test added. -/
theorem searchOwn_eq {joined : Query} {reached : String} {test : Cond}
    (own : search.overrides.lookup column.name = none)
    (reaches : search.reach start.query column = .ok (reached, joined))
    (tested : search.ownTest joined column reached = .ok test) :
    search.searchOwn column start =
      (.ok ⟨⟩, ⟨{ joined with store := joined.store.add start.query.root .and (.cond test) }, true⟩) := by
  have read : (get : Action Searching Searching) start = (.ok start, start) := rfl
  rw [searchOwn, Action.bind_eq read, own, reaches]
  refine (Action.bind_eq rfl).trans ((Action.bind_eq rfl).trans ?_)
  rw [tested]
  exact (Action.bind_eq rfl).trans ((Action.bind_eq rfl).trans rfl)

/-- The search for the column's own keyword joins the tables along its path, and adds the test. -/
theorem runOwn_plain {main : String} (plain : search.Plain path name column)
    (asks : AsksOwn search.request column keyword) (named : start.query.mainTable? = some main)
    (walked : search.registry.walk (some main) path = .ok relations) :
    let joined := relations.foldl (fun query relation => query.joinRelation name relation) start.query
    let test := Cond.atom (search.tableTest start.query.adapter (Relation.leads main relations) name keyword)
    search.runOwn start =
      (.ok ⟨⟩, ⟨{ joined with store := start.query.store.add start.query.root .and (.cond test) }, true⟩) := by
  intro joined test
  obtain ⟨columns, listed, single⟩ := asks.columns
  have reached : search.reach start.query column = .ok (Relation.leads main relations ++ "." ++ name, joined) := by
    obtain ⟨first, rest, rfl⟩ := List.exists_cons_of_ne_nil (Registry.walk_ne_nil walked)
    rw [reach, plain.split]
    simp only [Query.joinPath, named, walked, Relation.leads_last]
    rfl
  have alike := reach_alike reached
  have tested : search.ownTest joined column (Relation.leads main relations ++ "." ++ name) = .ok test := by
    rw [ownTest, asks.text, columnTest, plain.json, asks.keyword, plainTest, Query.qualified_within, alike.adapter]
    rfl
  have own := searchOwn_eq plain.own reached tested
  rw [alike.store] at own
  rw [runOwn, listed]
  refine (Action.bind_eq rfl).trans ?_
  rw [single]
  exact (Action.bind_eq own).trans rfl

/-- The search for a keyword in all columns adds the test of a related row, in a group of its own. -/
theorem runGlobal_plain {main : String} {first : Relation} {rest : List Relation}
    (plain : search.Plain path name column) (asks : AsksOverall search.request column keyword)
    (kept : search.excludes column.name = false) (terms : search.config.terms keyword = [keyword])
    (named : start.query.mainTable? = some main) (walked : search.registry.walk (some main) path = .ok (first :: rest))
    (last : Relation.leads main (first :: rest) ≠ "") :
    let test := Cond.atom (search.tableTest start.query.adapter (Relation.leads main (first :: rest)) name keyword)
    let related := first.existsThrough start.query.adapter (some test) rest
    let opened := start.query.store.nested start.query.root .and
    search.runGlobal start =
      (.ok ⟨⟩, ⟨{ start.query with store := opened.2.add opened.1 .or (.cond related) }, true⟩) := by
  intro test related opened
  obtain ⟨columns, listed, single⟩ := asks.columns
  have undotted : '.' ∉ name.toList := by simpa using PathSet.split?_undotted plain.split
  let middle : Searching := start.withStore opened.2
  have tested : search.automaticTest middle.query column keyword = .ok related := by
    rw [automaticTest, plain.split]
    have named : middle.query.mainTable? = some main := named
    simp only [Query.existsAlong, named, walked, Except.ok_bind, columnTest, plain.json, plainTest,
      ← Relation.leads_last main, middle.query.qualified_table last undotted]
    rfl
  have one : search.addAlternative opened.1 keyword column middle =
      (.ok ⟨⟩, ⟨{ start.query with store := opened.2.add opened.1 .or (.cond related) }, true⟩) := by
    rw [addAlternative]
    refine (Action.bind_eq rfl).trans ?_
    rw [plain.own, kept, tested]
    exact (Action.bind_eq rfl).trans ((Action.bind_eq rfl).trans rfl)
  have term : search.searchAll keyword start =
      (.ok ⟨⟩, ⟨{ start.query with store := opened.2.add opened.1 .or (.cond related) }, true⟩) := by
    rw [searchAll]
    refine (Action.bind_eq rfl).trans ((Action.bind_eq rfl).trans ?_)
    rw [listed]
    refine (Action.bind_eq rfl).trans ?_
    rw [single]
    exact (Action.bind_eq one).trans rfl
  rw [runGlobal, asks.keyword]
  refine (Action.bind_eq rfl).trans ?_
  rw [terms]
  exact (Action.bind_eq term).trans rfl

end Search

end DataGrid
