import DataGrid.Proofs.ColumnReading
import DataGrid.Proofs.JoinRuns
import DataGrid.Proofs.TwinColumns

/-! The columns that the automatic passes look at. Each search writes a condition from names that it derives from the
request: the name of a column, its fallback, and the keys of the relations on its path. The conditions look at these
columns and at no others. -/

namespace DataGrid

open Sql

/-- The name of a fallback; it is looked at only beside a path into JSON. -/
def fallbackNames (path fallback : Value) : List String :=
  match path, fallback with
  | .null, _ => []
  | _, .text name => [name]
  | _, _ => []

variable {adapter : Adapter} {name : String}

section Fallback
variable {path fallback : Value}

theorem fallbackNames_plain (plain : path = .null) : fallbackNames path fallback = [] := by
  rw [plain]
  rfl

theorem fallbackNames_none : fallbackNames path .null = [] := by
  cases path <;> rfl

theorem fallbackNames_named {other : String} (json : path ≠ .null) (named : fallback.toColumnName = .ok other) :
    fallbackNames path fallback = [other] := by
  cases fallback with
  | text given =>
    cases named
    cases path with
    | null => exact absurd rfl json
    | _ => rfl
  | _ => cases named

end Fallback

/-- A name of one segment has no path. -/
theorem PathSet.split?_bare (paths : PathSet) {column : String} (undotted : '.' ∉ column.toList) :
    paths.split? column = none := by
  have single : Text.splitString '.' column = [column] := by
    rw [Text.splitString, Text.segments_single undotted]
    simp
  rw [PathSet.split?, Text.splitLast?, single]
  rfl

/-- A bare column is taken from the main table, when that one has a name. -/
theorem Query.qualified_main {query : Query} {main : String} (source : query.mainTable? = some main) (named : main ≠ "")
    {column : String} (undotted : '.' ∉ column.toList) : query.qualified column none = main ++ "." ++ column := by
  have bare : column.toList.contains '.' = false := by simpa using undotted
  rw [qualified, bare, source]
  exact if_neg named

theorem Sql.Adapter.column_reads (delimits : adapter.dialect.Delimits) (other : String) :
    (adapter.column other).Reads adapter name ↔ name = other := Expr.TakenFrom.column.reads_iff delimits

theorem Sql.compare_reads {left : Expr} {operator : Comparison} {value : Value} {test : Atom}
    (made : compare left operator value = .ok test) : test.Reads adapter name ↔ left.Reads adapter name := by
  unfold compare at made
  split at made <;> cases made <;> rfl

/-- Anything can be tested for equality. -/
theorem Sql.compare_equal (left : Expr) (value : Value) : ∃ test, compare left .equal value = .ok test := by
  cases value <;> exact ⟨_, rfl⟩

namespace Relation

/-- The column that tells the kind of related rows, when there is one. -/
def typeNames : Relation → List String
  | polymorphic _ _ _ (some column) morphClass =>
    match column, morphClass with
    | "", _ | _, .null => []
    | _, _ => [column]
  | _ => []

variable {relation : Relation}

theorem morphCondition?_reads (delimits : adapter.dialect.Delimits) (relation : Relation) :
    (∃ test ∈ relation.morphCondition? adapter, test.Reads adapter name) ↔ name ∈ relation.typeNames := by
  cases relation with
  | polymorphic table foreignKey otherKey morphType morphClass =>
    cases morphType with
    | none => simp [morphCondition?, typeNames]
    | some column =>
      unfold morphCondition? typeNames
      dsimp only
      split
      · simp
      · simp
      · obtain ⟨test, made⟩ := compare_equal (adapter.column column) morphClass
        simp [made, Except.toOption, compare_reads made, adapter.column_reads delimits]
  | _ => simp [morphCondition?, typeNames]

theorem sameColumn_reads (delimits : adapter.dialect.Delimits) (first second : String) :
    (Cond.atom (.sameColumn (adapter.column first) (adapter.column second))).Reads adapter name ↔
      name ∈ [first, second] := by
  rw [Cond.Reads, Atom.Reads, adapter.column_reads delimits, adapter.column_reads delimits]
  simp

/-- A relation is followed by its keys, and by the type of its related rows. -/
theorem link_reads (delimits : adapter.dialect.Delimits) (relation : Relation) :
    (relation.rows adapter).Reads adapter name ∨ (relation.correlation adapter).Reads adapter name ↔
      name ∈ relation.keys ++ relation.typeNames := by
  have same := @sameColumn_reads adapter name delimits
  cases relation with
  | belongsTo table foreignKey ownerKey =>
    simp only [rows, Rows.Reads, correlation, same, keys, typeNames]
    simp [or_comm]
  | hasMany table foreignKey localKey =>
    simp only [rows, Rows.Reads, correlation, same, keys, typeNames]
    simp
  | belongsToMany table pivot parentKey pivotParentKey pivotRelatedKey relatedKey =>
    simp only [rows, Rows.Reads, correlation, same, keys, typeNames, adapter.column_reads delimits]
    simp
    tauto
  | polymorphic table foreignKey otherKey morphType morphClass =>
    rw [List.mem_append, ← morphCondition?_reads delimits]
    simp only [rows, Rows.Reads, correlation, keys, false_or]
    split
    · next morph found =>
      rw [Cond.reads_join]
      simp only [found, Option.mem_def, Option.some.injEq, exists_eq_left', List.exists_mem_cons_iff, same,
        List.not_mem_nil, false_and, exists_false, or_false]
      rfl
    · next absent => simp [absent, same]

/-- A subquery along relations looks at what links them, and at what the condition on the last one does. -/
theorem existsThrough_reads (delimits : adapter.dialect.Delimits) (inner : Option Cond) (relation : Relation)
    (rest : List Relation) : (relation.existsThrough adapter inner rest).Reads adapter name ↔
      name ∈ (relation :: rest).flatMap (fun relation => relation.keys ++ relation.typeNames) ∨
        ∃ cond ∈ inner, cond.Reads adapter name := by
  induction rest generalizing relation with
  | nil =>
    rw [existsThrough, Cond.Reads, Cond.reads_join, List.flatMap_singleton, ← link_reads delimits, or_assoc]
    refine or_congr_right ?_
    cases inner <;> simp [Cond.Reads]
  | cons next rest ih =>
    rw [existsThrough, Cond.Reads, Cond.reads_join, List.flatMap_cons, List.mem_append, ← link_reads delimits, or_assoc,
      or_assoc, ← ih]
    simp

end Relation

namespace Search

variable {search : Search} {config : Config} {query : Query} {column : Column} {keyword : String}

theorem like_reads {expression : Expr} {taken : String} (delimits : adapter.dialect.Delimits)
    (found : expression.TakenFrom adapter taken) (config : Config) (pattern : String) :
    (like config adapter expression pattern).Reads adapter name ↔ name = taken := by
  have searched := Adapter.castText_taken found
  unfold like
  dsimp only
  split
  · exact searched.lower.reads_iff delimits
  · exact searched.reads_iff delimits

/-- The test of a column looks at the column as it is qualified, and at its fallback. -/
theorem columnTest_reads (delimits : query.adapter.dialect.Delimits) {called : String} {table : Option String}
    {test : Cond} (made : columnTest config query column called keyword table = .ok test) :
    test.Reads query.adapter name ↔
      name ∈ query.qualified called table :: fallbackNames column.jsonPath column.fallback := by
  rw [List.mem_cons]
  cases columnTest_tests made with
  | plain json =>
    rw [fallbackNames_plain json, Cond.Reads, plainTest, like_reads delimits .column]
    simp
  | path json fallback read =>
    obtain ⟨steps, _, written⟩ := Adapter.jsonPathOf_ok read
    rw [fallback, fallbackNames_none, Cond.Reads, like_reads delimits (.path written)]
    simp
  | either json fallback read named =>
    obtain ⟨steps, _, written⟩ := Adapter.jsonPathOf_ok read
    rw [fallbackNames_named json named, Cond.Reads, Cond.reads_join]
    simp [Cond.Reads, like_reads delimits (.path written), like_reads delimits .column]

/-- The columns that the search over all columns looks at for one of them. -/
def names (search : Search) (query : Query) (column : Column) : List String :=
  match search.paths.split? column.name with
  | some (path, name) =>
    match search.registry.walk query.mainTable? path with
    | .ok relations =>
      relations.flatMap (fun relation => relation.keys ++ relation.typeNames) ++
        query.qualified name (relations.getLast?.map Relation.table) ::
          fallbackNames column.jsonPath column.fallback
    | .error _ => []
  | none => query.qualified column.name none :: fallbackNames column.jsonPath column.fallback

theorem automaticTest_reads (delimits : query.adapter.dialect.Delimits) {test : Cond}
    (made : search.automaticTest query column keyword = .ok test) :
    test.Reads query.adapter name ↔ name ∈ search.names query column := by
  rw [automaticTest] at made
  cases found : search.paths.split? column.name with
  | none =>
    rw [names, found]
    simp only [found] at made
    exact columnTest_reads delimits made
  | some reached =>
    simp only [found] at made
    obtain ⟨relations, walked, made⟩ := Except.bind_ok made
    simp only [names, found, walked]
    cases relations with
    | nil => cases made
    | cons first rest =>
      obtain ⟨inner, tested, same⟩ := Except.bind_ok made
      cases same
      obtain ⟨test, done, rfl⟩ := Except.map_ok tested
      rw [Relation.existsThrough_reads delimits, List.mem_append]
      simp [columnTest_reads delimits done, List.getLast?_eq_some_getLast]

end Search

end DataGrid
