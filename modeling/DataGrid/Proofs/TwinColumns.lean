import DataGrid.Proofs.ColumnSearch
import DataGrid.Proofs.TwinQueries

/-! Two runs side by side: the conditions on columns. When the names of two columns are written alike, alone and behind
a table, so are the tests that search them for any keywords, in the table itself and along a path of relations. -/

namespace DataGrid

open Sql

variable {like : Likeness} {dialect : Dialect} {adapter : Adapter}

theorem Likeness.followed {first second : String} (one : like.relates [.text first] [.text second]) (after : String) :
    like.relates [.text (first ++ after)] [.text (second ++ after)] := like.texts one (like.refl _)

theorem Likeness.preceded (before : String) {first second : String} (one : like.relates [.text first] [.text second]) :
    like.relates [.text (before ++ first)] [.text (before ++ second)] := like.texts (like.refl _) one

/-- Expressions that are written alike, any values beside them included. -/
structure Sql.Expr.Twin (like : Likeness) (dialect : Dialect) (first second : Expr) : Prop where
  written : like.relates [.text (dialect.expr first)] [.text (dialect.expr second)]
  bound (value other : Value) : like.relates [.bound first.base value] [.bound second.base other]

namespace Sql.Expr

variable {first second : Expr}

theorem Twin.refl (expression : Expr) : Expr.Twin like dialect expression expression :=
  ⟨like.refl _, fun value other => like.bound _ value other⟩

theorem Twin.lower (twins : Expr.Twin like dialect first second) :
    Expr.Twin like dialect (.lower first) (.lower second) where
  written := like.followed (like.preceded "lower(" twins.written) ")"
  bound value other := like.bound _ value other

theorem Twin.cast (twins : Expr.Twin like dialect first second) (type : String) :
    Expr.Twin like dialect (.cast first type) (.cast second type) where
  written := like.followed (like.followed (like.followed (like.preceded "CAST(" twins.written) " AS ") type) ")"
  bound value other := like.bound _ value other

theorem Twin.castText (twins : Expr.Twin like dialect first second) (adapter : Adapter) :
    Expr.Twin like dialect (adapter.castText first) (adapter.castText second) := by
  unfold Adapter.castText
  split
  · exact twins.cast "TEXT"
  · split
    · exact twins.cast "VARCHAR(255)"
    · exact twins

/-- Comparisons with values are alike whatever the values are. -/
theorem Twin.compare (twins : Expr.Twin like dialect first second) (operator : Comparison) (value other : Value) :
    Atom.Twin like dialect (.compare first operator value) (.compare second operator other) where
  shielded := by cases operator <;> rfl
  pieces := by
    have opening := like.followed (like.followed (like.followed twins.written " ") operator.sign) " "
    exact like.append opening (twins.bound value other)

theorem Twin.isNull (twins : Expr.Twin like dialect first second) (negated : Bool) :
    Atom.Twin like dialect (.isNull first negated) (.isNull second negated) where
  shielded := rfl
  pieces := like.followed twins.written _

private theorem Twin.matched (twins : Expr.Twin like dialect first second) (operator pattern other : String) :
    Atom.Twin like dialect (.regexp first operator pattern) (.regexp second operator other) where
  shielded := rfl
  pieces := by
    have opening := like.followed (like.followed (like.followed twins.written " ") operator) " "
    exact like.append opening (twins.bound (.text pattern) (.text other))

private theorem Twin.matchedCall (twins : Expr.Twin like dialect first second) (pattern other : String)
    (ignoreCase : Bool) :
    Atom.Twin like dialect (.regexpLike first pattern ignoreCase) (.regexpLike second other ignoreCase) where
  shielded := rfl
  pieces := by
    have opening := like.followed (like.preceded "REGEXP_LIKE(" twins.written) ", "
    exact like.append opening (like.append (like.bound _ (.text pattern) (.text other)) (like.refl _))

theorem Twin.regexp (twins : Expr.Twin like dialect first second) (adapter : Adapter) (pattern other : String)
    (ignoreCase : Bool) :
    Atom.Twin like dialect (adapter.regexp first pattern ignoreCase) (adapter.regexp second other ignoreCase) := by
  unfold Adapter.regexp
  cases adapter.family with
  | postgresql => exact twins.matched _ _ _
  | oracle =>
    cases ignoreCase with
    | false => exact twins.matchedCall _ _ _
    | true => exact twins.lower.matchedCall _ _ _
  | generic | mysql =>
    cases ignoreCase with
    | false => exact twins.matched _ _ _
    | true => exact twins.lower.matched _ _ _

end Sql.Expr

/-- Two names that a relation holds of, alone and behind any table. -/
structure Placed (relation : String → String → Prop) (first second : String) : Prop where
  dotted : first.toList.contains '.' = second.toList.contains '.'
  alone : relation first second
  within (table : String) : relation (table ++ "." ++ first) (table ++ "." ++ second)

namespace Placed

variable {relation : String → String → Prop} {first second : String}

theorem refl (same : ∀ name, relation name name) (name : String) : Placed relation name name :=
  ⟨rfl, same name, fun table => same (table ++ "." ++ name)⟩

theorem qualified (placed : Placed relation first second) (query : Query) (table : Option String) :
    relation (query.qualified first table) (query.qualified second table) := by
  unfold Query.qualified
  rw [placed.dotted]
  by_cases dotted : second.toList.contains '.' = true
  · rw [if_pos dotted, if_pos dotted]
    exact placed.alone
  · rw [if_neg dotted, if_neg dotted]
    cases (table.filter (· != "")).or query.mainTable? with
    | none => exact placed.alone
    | some main =>
      by_cases empty : main = ""
      · simp only [empty, if_true]
        exact placed.alone
      · simp only [empty, if_false]
        exact placed.within main

end Placed

/-- A name behind a table is not qualified once more. -/
theorem Query.qualified_within (query : Query) (table name : String) (other : Option String) :
    query.qualified (table ++ "." ++ name) other = table ++ "." ++ name := by
  have dotted : (table ++ "." ++ name).toList.contains '.' = true := by
    rw [List.contains_iff_mem, String.toList_append, String.toList_append]
    apply List.mem_append_left
    apply List.mem_append_right
    decide
  unfold Query.qualified
  rw [if_pos dotted]

/-- Two names, and paths into their columns, that are written alike. -/
structure Column.WrittenAs (like : Likeness) (adapter : Adapter) (path path' : Value) (name other : String) : Prop where
  names : Expr.Twin like adapter.dialect (adapter.column name) (adapter.column other)
  paths {written written' : String} (read : adapter.jsonPathOf name path = .ok written)
    (read' : adapter.jsonPathOf other path' = .ok written') :
    Expr.Twin like adapter.dialect (.literal written) (.literal written')

/-- Two columns that are searched in the same way, and written alike wherever they are named. -/
structure Column.Twin (like : Likeness) (adapter : Adapter) (declared : PathSet) (follow : String → String → Prop)
    (first second : Column) : Prop where
  searchable : first.searchable = second.searchable
  regex : first.isRegex = second.isRegex
  sought : (first.searchValue != "") = (second.searchValue != "")
  json : first.jsonPath = .null ↔ second.jsonPath = .null
  fallback : first.fallback = .null ↔ second.fallback = .null
  fallbacks {name other : String} (read : first.fallback.toColumnName = .ok name)
    (read' : second.fallback.toColumnName = .ok other) :
    Expr.Twin like adapter.dialect (adapter.column name) (adapter.column other)
  own : Placed (Column.WrittenAs like adapter first.jsonPath second.jsonPath) first.name second.name
  split : Option.Rel (fun one other => follow one.1 other.1 ∧
      Placed (Column.WrittenAs like adapter first.jsonPath second.jsonPath) one.2 other.2)
    (declared.split? first.name) (declared.split? second.name)

/-- Twin conditions on the last of some related rows stay twins as conditions on the first. -/
theorem Relation.existsThrough_twin {first second : Option Cond}
    (inner : Option.Rel (Cond.Twin like dialect) first second) (relation : Relation) (rest : List Relation) :
    Cond.Twin like dialect (relation.existsThrough adapter first rest)
      (relation.existsThrough adapter second rest) := by
  induction rest generalizing relation with
  | nil =>
    rw [Relation.existsThrough, Relation.existsThrough]
    refine .exists _ (Cond.Twin.join .and (.cons (.refl _) ?_))
    cases inner with
    | none => exact .nil
    | some twins => exact .cons (.group twins) .nil
  | cons next rest ih =>
    rw [Relation.existsThrough, Relation.existsThrough]
    exact .exists _ (Cond.Twin.join .and (.cons (.refl _) (.cons (ih next) .nil)))

namespace Search

variable {config : Config} {query : Query} {first second : Column} {declared : PathSet}
  {follow : String → String → Prop}

theorem like_twin {expression other : Expr} (twins : Expr.Twin like dialect expression other) (config : Config)
    (adapter : Adapter) (pattern pattern' : String) :
    Atom.Twin like dialect (Search.like config adapter expression pattern)
      (Search.like config adapter other pattern') := by
  have searched := twins.castText adapter
  unfold Search.like
  by_cases folded : config.caseInsensitive.truthy = true
  · simp only [folded, if_true]
    exact searched.lower.compare .like _ _
  · simp only [folded]
    exact searched.compare .like _ _

/-- The forms of a column's test: of the column itself, of its JSON path, or of the path with a fallback. -/
inductive Tests (config : Config) (query : Query) (column : Column) (name keyword : String) (table : Option String) :
    Cond → Prop where
  | plain (json : column.jsonPath = .null) :
      Tests config query column name keyword table (.atom (plainTest config query name keyword table))
  | path {written : String} (json : column.jsonPath ≠ .null) (fallback : column.fallback = .null)
      (read : query.adapter.jsonPathOf (query.qualified name table) column.jsonPath = .ok written) :
      Tests config query column name keyword table
        (.atom (Search.like config query.adapter (.literal written) (config.pattern keyword)))
  | either {written other : String} (json : column.jsonPath ≠ .null) (fallback : column.fallback ≠ .null)
      (read : query.adapter.jsonPathOf (query.qualified name table) column.jsonPath = .ok written)
      (named : column.fallback.toColumnName = .ok other) :
      Tests config query column name keyword table
        (.group (Cond.join .or
          [.atom (Search.like config query.adapter (.literal written) (config.pattern keyword)),
            .atom (Search.like config query.adapter (query.adapter.column other) (config.pattern keyword))]))

theorem columnTest_tests {column : Column} {name keyword : String} {table : Option String} {test : Cond}
    (made : columnTest config query column name keyword table = .ok test) :
    Tests config query column name keyword table test := by
  unfold columnTest at made
  split at made
  · next json =>
    cases made
    exact .plain json
  · next json =>
    obtain ⟨_, read, made⟩ := Except.bind_ok made
    obtain ⟨written, found, same⟩ := Except.bind_ok read
    cases same
    dsimp only at made
    split at made
    · next fallback =>
      cases made
      exact .path json fallback found
    · next fallback =>
      obtain ⟨other, named, same⟩ := Except.bind_ok made
      cases same
      exact .either json fallback found named

/-- The test of a column is alike in both runs, whatever is looked for. -/
theorem columnTest_twin (columns : Column.Twin like query.adapter declared follow first second)
    {name other keyword keyword' : String} {table : Option String}
    (written : Column.WrittenAs like query.adapter first.jsonPath second.jsonPath (query.qualified name table)
      (query.qualified other table))
    {test test' : Cond} (made : columnTest config query first name keyword table = .ok test)
    (made' : columnTest config query second other keyword' table = .ok test') :
    Cond.Twin like query.dialect test test' := by
  cases columnTest_tests made with
  | plain json =>
    cases columnTest_tests made' with
    | plain => exact .atom (like_twin written.names _ _ _ _)
    | path json' | either json' => exact absurd (columns.json.mp json) json'
  | path json fallback read =>
    cases columnTest_tests made' with
    | plain json' => exact absurd (columns.json.mpr json') json
    | path _ _ read' => exact .atom (like_twin (written.paths read read') _ _ _ _)
    | either _ fallback' => exact absurd (columns.fallback.mp fallback) fallback'
  | either json fallback read named =>
    cases columnTest_tests made' with
    | plain json' => exact absurd (columns.json.mpr json') json
    | path _ fallback' => exact absurd (columns.fallback.mpr fallback') fallback
    | either _ _ read' named' =>
      have searched := like_twin (written.paths read read') config query.adapter (config.pattern keyword)
        (config.pattern keyword')
      have instead := like_twin (columns.fallbacks named named') config query.adapter (config.pattern keyword)
        (config.pattern keyword')
      exact .group (Cond.Twin.join .or (.cons (.atom searched) (.cons (.atom instead) .nil)))

/-- So is the test in the global search, which looks along the path of the column. -/
theorem automaticTest_twin {search other : Search} (config : search.config = other.config)
    (registry : search.registry = other.registry) (paths : search.paths = other.paths)
    (columns : Column.Twin like query.adapter search.paths
      (fun one two => search.registry.walk query.mainTable? one = search.registry.walk query.mainTable? two) first
      second)
    {keyword keyword' : String} {test test' : Cond} (made : search.automaticTest query first keyword = .ok test)
    (made' : other.automaticTest query second keyword' = .ok test') : Cond.Twin like query.dialect test test' := by
  unfold automaticTest at made made'
  rw [← config, ← registry, ← paths] at made'
  have split := columns.split
  generalize search.paths.split? first.name = along at made split
  generalize search.paths.split? second.name = along' at made' split
  cases split with
  | none => exact columnTest_twin columns (columns.own.qualified query none) made made'
  | @some one two placed =>
    obtain ⟨path, name⟩ := one
    obtain ⟨path', name'⟩ := two
    obtain ⟨same, placed⟩ := placed
    dsimp only at made made' same placed
    unfold Query.existsAlong at made made'
    rw [← same] at made'
    obtain ⟨relations, walked, made⟩ := Except.bind_ok made
    obtain ⟨relations', walked', made'⟩ := Except.bind_ok made'
    obtain rfl : relations = relations' := Except.ok.inj (walked.symm.trans walked')
    cases relations with
    | nil => cases made
    | cons relation rest =>
      obtain ⟨inner, tested, same⟩ := Except.bind_ok made
      obtain ⟨inner', tested', same'⟩ := Except.bind_ok made'
      cases same
      cases same'
      obtain ⟨condition, one, rfl⟩ := Except.map_ok tested
      obtain ⟨condition', two, rfl⟩ := Except.map_ok tested'
      have tests := columnTest_twin columns (placed.qualified query _) one two
      exact Relation.existsThrough_twin (.some tests) relation rest

/-- So is the test of a column by its own keyword, under the name by which the column was reached. -/
theorem ownTest_twin {search other : Search} (config : search.config = other.config)
    (columns : Column.Twin like query.adapter declared follow first second) {name name' : String}
    (placed : Column.WrittenAs like query.adapter first.jsonPath second.jsonPath name name')
    (qualified : Column.WrittenAs like query.adapter first.jsonPath second.jsonPath (query.qualified name none)
      (query.qualified name' none))
    {test test' : Cond} (made : search.ownTest query first name = .ok test)
    (made' : other.ownTest query second name' = .ok test') : Cond.Twin like query.dialect test test' := by
  unfold ownTest at made made'
  rw [← config, ← columns.regex] at made'
  by_cases regex : first.isRegex = true
  · rw [if_pos regex] at made made'
    cases made
    cases made'
    exact .atom (placed.names.regexp query.adapter _ _ _)
  · rw [if_neg regex] at made made'
    exact columnTest_twin columns qualified made made'

end Search

end DataGrid
