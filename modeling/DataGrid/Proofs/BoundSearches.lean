import DataGrid.Proofs.BoundStatements
import DataGrid.Proofs.FilterNesting
import DataGrid.Proofs.GlobalSearch
import DataGrid.Proofs.GroupBuilding
import DataGrid.Proofs.HandleCondition
import DataGrid.Proofs.WidenedQueries

/-! The values that the search over all columns binds. Term by term, and column by column in the order of the request,
these are the classes of the relations on the way to the column and the pattern of the term, once or twice. -/

namespace DataGrid

open Sql

theorem Except.mapM_forall₂ {ε α β γ : Type} {first : α → Except ε β} {second : α → Except ε γ} {related : β → γ → Prop}
    (each : ∀ item one, first item = .ok one → ∃ other, second item = .ok other ∧ related one other) {items : List α}
    {ones : List β} (made : items.mapM first = .ok ones) :
    ∃ others, items.mapM second = .ok others ∧ List.Forall₂ related ones others := by
  induction items generalizing ones with
  | nil =>
    cases made
    exact ⟨[], rfl, .nil⟩
  | cons item rest ih =>
    rw [List.mapM_cons] at made
    obtain ⟨one, found, made⟩ := Except.bind_ok made
    obtain ⟨more, later, same⟩ := Except.bind_ok made
    cases same
    obtain ⟨other, found', alike⟩ := each item one found
    obtain ⟨others, later', all⟩ := ih later
    refine ⟨other :: others, ?_, .cons alike all⟩
    rw [List.mapM_cons, found', Except.ok_bind, later']
    rfl

namespace Relation

/-- The class that the type condition of a relation asks for. A class is a text; a truth value in the place of one is
written as a constant. -/
def classes : Relation → List Value
  | .polymorphic _ _ _ (some column) morphClass =>
    if column = "" then []
    else
      match morphClass with
      | .null | .bool _ => []
      | _ => [morphClass]
  | _ => []

theorem morphCondition_binds (adapter : Adapter) (relation : Relation) :
    match relation.morphCondition? adapter with
    | none => relation.classes = []
    | some test => test.values? = some relation.classes := by
  cases relation with
  | polymorphic table foreignKey otherKey morphType morphClass =>
    cases morphType with
    | none => rfl
    | some column =>
      by_cases unnamed : column = ""
      · subst unnamed
        rfl
      · cases morphClass <;> simp [morphCondition?, classes, unnamed, Sql.compare, Except.toOption, Atom.values?]
  | _ => rfl

theorem correlation_binds (adapter : Adapter) (relation : Relation) :
    (relation.correlation adapter).Binds relation.classes := by
  cases relation with
  | polymorphic table foreignKey otherKey morphType morphClass =>
    have binds := morphCondition_binds adapter (polymorphic table foreignKey otherKey morphType morphClass)
    rw [correlation]
    split
    · next morph found =>
      rw [found] at binds
      have same : Cond.Binds (.atom (.sameColumn (adapter.column foreignKey) (adapter.column otherKey))) [] := .atom rfl
      exact (Cond.AllBind.cons same (.single (.atom binds))).join .and
    · next found =>
      rw [found] at binds
      rw [binds]
      exact .atom rfl
  | _ => exact .atom rfl

/-- A search along relations binds the classes on the way before what the last one asks for. -/
theorem existsThrough_binds (adapter : Adapter) {inner : Cond} {values : List Value} (binds : inner.Binds values)
    (relation : Relation) (rest : List Relation) :
    (relation.existsThrough adapter (some inner) rest).Binds ((relation :: rest).flatMap classes ++ values) := by
  have correlated := Cond.AllBind.single (relation.correlation_binds adapter)
  -- The correlation is written before the rows further on, so the classes come in the order of the path.
  induction rest generalizing relation with
  | nil =>
    rw [existsThrough, List.flatMap_cons, List.flatMap_nil, List.append_nil]
    exact .exists _ ((correlated.append (.single (.group binds))).join .and)
  | cons next rest ih =>
    rw [existsThrough, List.flatMap_cons, List.append_assoc]
    have further := ih next (.single (next.correlation_binds adapter))
    exact .exists _ ((correlated.append (.single further)).join .and)

end Relation

namespace Column

/-- How often a pattern is bound for a column: twice where it has a JSON path and a fallback. -/
def timesBound (column : Column) : Nat :=
  match column.jsonPath, column.fallback with
  | .null, _ | _, .null => 1
  | _, _ => 2

end Column

namespace Search

variable {search : Search} {query : Query} {config : Config} {column : Column} {keyword name : String}
  {table : Option String} {cond : Cond} {trees : List PredicateTree}

theorem columnTest_binds (tested : columnTest config query column name keyword table = .ok cond) :
    cond.Binds (List.replicate column.timesBound (.text (config.pattern keyword))) := by
  have like (expression : Expr) :
      Cond.Binds (.atom (like config query.adapter expression (config.pattern keyword)))
        [.text (config.pattern keyword)] := .atom rfl
  unfold columnTest at tested
  split at tested
  · next plain =>
    cases tested
    rw [Column.timesBound, plain]
    exact like _
  · next json =>
    obtain ⟨field, _, tested⟩ := Except.bind_ok tested
    dsimp only at tested
    split at tested
    · next alone =>
      cases tested
      have once : column.timesBound = 1 := by
        unfold Column.timesBound
        rw [alone]
        cases column.jsonPath <;> rfl
      rw [once]
      exact like field
    · next further =>
      obtain ⟨other, _, same⟩ := Except.bind_ok tested
      cases same
      have twice : column.timesBound = 2 := by
        unfold Column.timesBound
        split
        · next path => exact (json path).elim
        · next fallback _ => exact (further fallback).elim
        · rfl
      rw [twice]
      exact .group (((Cond.AllBind.single (like field)).append (.single (like _))).join .or)

/-- The values that the search for a keyword in a column binds: the classes on the way, and the pattern. -/
def columnValues (search : Search) (query : Query) (keyword : String) (column : Column) :
    Except Error (List Value) := do
  let relations ← match search.paths.split? column.name with
    | some (path, _) => search.registry.walk query.mainTable? path
    | none => .ok []
  let pattern := search.config.pattern keyword
  return relations.flatMap Relation.classes ++ List.replicate column.timesBound (.text pattern)

theorem automaticTest_binds (tested : search.automaticTest query column keyword = .ok cond) :
    ∃ values, search.columnValues query keyword column = .ok values ∧ cond.Binds values := by
  unfold automaticTest at tested
  split at tested
  · next path name declared =>
    unfold Query.existsAlong at tested
    obtain ⟨relations, walked, tested⟩ := Except.bind_ok tested
    split at tested
    · cases tested
    · next first rest =>
      obtain ⟨inner, made, same⟩ := Except.bind_ok tested
      obtain ⟨test, own, rfl⟩ := Except.map_ok made
      cases same
      refine ⟨_, ?_, Relation.existsThrough_binds query.adapter (columnTest_binds own) first rest⟩
      rw [columnValues, declared]
      simp only [walked, Except.ok_bind]
      rfl
  · next bare =>
    refine ⟨_, ?_, columnTest_binds tested⟩
    rw [columnValues, bare]
    rfl

/-- The values that the search for a term binds, column by column. -/
def termValues (search : Search) (query : Query) (keyword : String) : Except Error (List Value) := do
  let columns ← search.request.columns
  let searched := columns.filter fun column => column.searchable && !search.excludes column.name
  return (← searched.mapM (search.columnValues query keyword)).flatten

/-- The values that the search binds, term by term. -/
def values (search : Search) (query : Query) : Except Error (List Value) := do
  let word ← search.request.keyword
  return (← (search.config.terms word).mapM (search.termValues query)).flatten

theorem searched_eq (plain : search.overrides = []) (columns : List Column) :
    (columns.filter (·.searchable)).filter search.takes =
      columns.filter fun column => column.searchable && !search.excludes column.name := by
  rw [List.filter_filter]
  refine List.filter_congr fun column _ => ?_
  have takes : search.takes column = !search.excludes column.name := by rw [Search.takes, plain]; rfl
  rw [takes, Bool.and_comm]

private theorem conds_of_each {lists : List (List Value)}
    (each : List.Forall₂ (fun tree values => ∃ cond, tree = .cond cond ∧ Cond.Binds cond values) trees lists) :
    ∃ conds, trees = conds.map .cond ∧ Cond.AllBind conds lists.flatten := by
  induction each with
  | nil => exact ⟨[], rfl, .nil⟩
  | cons alike _ ih =>
    obtain ⟨cond, rfl, binds⟩ := alike
    obtain ⟨conds, rfl, rest⟩ := ih
    exact ⟨cond :: conds, rfl, .cons binds rest⟩

/-- The alternatives of a term are conditions that bind its values. -/
theorem alternatives_bind (plain : search.overrides = []) (asked : search.alternatives query keyword = .ok trees) :
    ∃ values, search.termValues query keyword = .ok values ∧
      ∃ conds, trees = conds.map .cond ∧ Cond.AllBind conds values := by
  obtain ⟨columns, listed, asked⟩ := Except.bind_ok asked
  have each : ∀ column tree, search.predicate query keyword column = .ok tree →
      ∃ values, search.columnValues query keyword column = .ok values ∧
        ∃ cond, tree = .cond cond ∧ Cond.Binds cond values := by
    intro column tree made
    rw [predicate, plain] at made
    obtain ⟨cond, tested, same⟩ := Except.bind_ok made
    cases same
    obtain ⟨values, found, binds⟩ := automaticTest_binds tested
    exact ⟨values, found, cond, rfl, binds⟩
  rw [searched_eq plain] at asked
  obtain ⟨lists, found, all⟩ := Except.mapM_forall₂ each asked
  refine ⟨lists.flatten, ?_, conds_of_each all⟩
  rw [termValues, listed, Except.ok_bind]
  dsimp only
  rw [found]
  rfl

section Groups

variable {terms : List (List PredicateTree)} {lists : List (List Value)}

/-- The groups of some terms come to conditions that bind their values, and are of no great height. -/
structure Gathers (terms : List (List PredicateTree)) (values : List Value) : Prop where
  clauses : ∃ conds, Forest.clauses (terms.map termGroup) = conds.map (fun cond => (.and, .cond cond)) ∧
    Cond.AllBind conds values
  each : Forest.Each (fun _ => True) (terms.map termGroup)
  height : Forest.height (terms.map termGroup) ≤ 2

private theorem clauses_conds (conds : List Cond) :
    Forest.clauses ((conds.map PredicateTree.cond).map fun tree => (.or, tree)) =
      conds.map fun cond => (.or, .cond cond) := by
  induction conds with
  | nil => rfl
  | cons cond rest ih => rw [List.map_cons, List.map_cons, Forest.clauses, ih]; rfl

private theorem each_conds (conds : List Cond) :
    Forest.Each (fun _ => True) ((conds.map PredicateTree.cond).map fun tree => (.or, tree)) ∧
      Forest.height ((conds.map PredicateTree.cond).map fun tree => (.or, tree)) = 1 := by
  induction conds with
  | nil => exact ⟨trivial, rfl⟩
  | cons cond rest ih =>
    refine ⟨⟨trivial, ih.1⟩, ?_⟩
    rw [List.map_cons, List.map_cons, Forest.height, ih.2]
    rfl

theorem gathers (each : List.Forall₂ (fun trees values => ∃ conds, trees = conds.map .cond ∧ Cond.AllBind conds values)
    terms lists) : Gathers terms lists.flatten := by
  induction each with
  | nil => exact ⟨⟨[], rfl, .nil⟩, trivial, by decide⟩
  | cons alike _ ih =>
    obtain ⟨conds, rfl, binds⟩ := alike
    obtain ⟨⟨others, same, rest⟩, shown, low⟩ := ih
    obtain ⟨inside, flat⟩ := each_conds conds
    refine ⟨?_, ⟨inside, shown⟩, ?_⟩
    · rw [List.map_cons, termGroup, Forest.clauses, PredicateTree.clause?, clauses_conds, same]
      cases conds with
      | nil =>
        cases binds
        exact ⟨others, rfl, rest⟩
      | cons first more =>
        rw [Store.fold_conds .or (List.cons_ne_nil first more)]
        exact ⟨.group (Cond.join .or (first :: more)) :: others, rfl, .cons (.group (binds.join .or)) rest⟩
    · rw [List.map_cons, termGroup, Forest.height, PredicateTree.height, flat]
      exact Nat.max_le.mpr ⟨Nat.le_refl _, low⟩

/-- The clause of the groups is one condition with all their values, or none. -/
theorem Gathers.clause {values : List Value} (gathers : Gathers terms values) :
    ∃ found : Option Cond, Forest.clause? (terms.map termGroup) = found.map .cond ∧
      Cond.AllBind found.toList values := by
  obtain ⟨conds, same, binds⟩ := gathers.clauses
  rw [Forest.clause?, same]
  cases conds with
  | nil => exact ⟨none, rfl, binds⟩
  | cons first more =>
    rw [Store.fold_conds .and (List.cons_ne_nil first more)]
    exact ⟨some (Cond.join .and (first :: more)), rfl, .single (binds.join .and)⟩

end Groups

variable {base : Select} {dialect : Dialect} {oracle : Bool} {after : Searching} {result : PUnit}

/-- What the search adds to a fresh query is one condition with its values, or none. -/
theorem runGlobal_condition (plain : search.overrides = [])
    (ran : search.runGlobal ⟨.ofSelect base dialect oracle, false⟩ = (.ok result, after)) :
    ∃ values, search.values (.ofSelect base dialect oracle) = .ok values ∧
      ∃ found : Option Cond, Cond.AllBind found.toList values ∧
        after.query.select = .ok { base with filter := Clause.filter? base.filter (found.map .cond) } := by
  have formed := Query.formed_ofSelect base dialect oracle
  obtain ⟨word, terms, asked, read, appends⟩ := runGlobal_appends formed.root ran
  obtain ⟨lists, found, each⟩ := Except.mapM_forall₂ (fun term trees made => alternatives_bind plain made) read
  have gathers := gathers each
  obtain ⟨condition, clause, binds⟩ := gathers.clause
  have unfolds := appends.store.unfolds formed.closed (.intro trivial .nil)
  -- Groups within a group are no deeper than any limit, so the clause of the root can always be read.
  have shallow : Forest.height ([] ++ terms.map termGroup) ≤ stepLimit / 3 :=
    Nat.le_trans gathers.height (by decide)
  have read := GroupCall.clause_of_shallow (appends.store.closed formed.closed) unfolds gathers.each shallow
  refine ⟨lists.flatten, ?_, condition, binds, ?_⟩
  · rw [Search.values, asked, Except.ok_bind, found]
    rfl
  · have own : after.query.base = base := by rw [appends.query]; rfl
    have root : after.query.root = (Query.ofSelect base dialect oracle).root := by rw [appends.query]
    have parts : after.query.SelectParts [] (Clause.filter? base.filter (condition.map .cond)) none none := by
      refine ⟨?_, ?_, ?_, ?_, ?_⟩
      · rw [appends.query]; rfl
      · rw [appends.query]; rfl
      · rw [Query.condition, own, root, read, List.nil_append, clause]; rfl
      · rw [appends.query]; rfl
      · rw [appends.query]; rfl
    have joins : after.query.joins = [] := by rw [appends.query]; rfl
    have sorts : after.query.sorts = [] := by rw [appends.query]; rfl
    rw [Query.select_of_parts parts, Query.assemble, own, joins, sorts]
    simp

/-- The values that the search binds in the statement of a fresh query. Between those of the base, in front of what
follows its condition, stand the values of the search in their order, and nothing else is bound. The text has a
placeholder for each of them in its place, and inline the same text has the literal of the value there. -/
theorem runGlobal_binds (plain : search.overrides = [])
    (ran : search.runGlobal ⟨.ofSelect base dialect oracle, false⟩ = (.ok result, after)) :
    ∃ values statement, search.values (.ofSelect base dialect oracle) = .ok values ∧
      after.query.select = .ok statement ∧
      ∀ bound, statement.values dialect = .ok bound →
        ∃ later front added back, Select.Inserts dialect base statement values later front added back ∧
          bound = boundValues front ++ values ++ later ∧
          (boundValues (base.pieces dialect false) = [] → bound = values) ∧
          (∀ text, statement.placeholderSql dialect = .ok text →
            WrittenWith (Piece.placeholders dialect) dialect.IsPlaceholder front added back values text) ∧
          ∀ text, statement.inlineSql dialect = .ok text →
            WrittenWith (Piece.inline dialect) dialect.IsLiteral front added back values text := by
  obtain ⟨values, found, condition, binds, made⟩ := runGlobal_condition plain ran
  refine ⟨values, _, found, made, fun bound listed => ?_⟩
  obtain ⟨_, written, same⟩ := Except.bind_ok listed
  obtain ⟨text, wrote, _⟩ := Except.map_ok written
  cases same
  obtain ⟨later, front, added, back, inserts⟩ := Select.inserts_filter binds rfl wrote
  refine ⟨later, front, added, back, inserts, inserts.whole, fun unbound => ?_, fun text wrote => ?_,
    fun text wrote => ?_⟩
  · obtain ⟨before, behind⟩ := List.append_eq_nil_iff.mp (inserts.own.symm.trans unbound)
    rw [inserts.whole, before, behind, List.nil_append, List.append_nil]
  · exact inserts.carries.writtenWith (.placeholders dialect) (inserts.pieces ▸ wrote)
  · exact inserts.carries.writtenWith (.inline dialect) (inserts.pieces ▸ wrote)

/-- A search for two words in the comments on prints, and in a JSON column or else in their titles. -/
private def printSearch : Search where
  request := ⟨.object [("search", .object [("value", .text "Red fox")]),
    ("columns", .list [.object [("data", .text "comments.body"), ("searchable", .bool true)],
      .object [("data", .text "details"), ("searchable", .bool true), ("json", .text "motif"),
        ("fallback", .text "prints.title")]])]⟩
  config := {}
  registry := ⟨[("prints", [("comments",
    .polymorphic "comments" "comments.subject_id" "prints.id" (some "comments.subject_type") (.text "print"))])]⟩
  paths := PathSet.expand ["comments"]
  overrides := []
  excludes _ := false

/-- The first ten prints below a price. -/
private def cheapPrints : Select :=
  { Select.empty with
    items := [.column "prints" "id"]
    source := some (.table ⟨"prints", none⟩)
    filter := some (.atom (.compare (.column "prints" "price") .less (.int 40)))
    limit := some 10 }

/-- Between the price and the number of prints stand the class and the patterns, word by word. -/
theorem runGlobal_binds_prints :
    ∃ after statement bound, printSearch.runGlobal ⟨.ofSelect cheapPrints .mysql false, false⟩ = (.ok ⟨⟩, after) ∧
      after.query.select = .ok statement ∧ statement.values .mysql = .ok bound ∧
      bound.map Value.display =
        ["40", "print", "%red%", "%red%", "%red%", "print", "%fox%", "%fox%", "%fox%", "10"] := by
  let start : Searching := ⟨.ofSelect cheapPrints .mysql false, false⟩
  have runs : (printSearch.runGlobal start).1.isOk = true := by decide +kernel
  have named : (do (← (printSearch.runGlobal start).2.query.select).values .mysql).isOk = true := by decide +kernel
  have searched : (printSearch.values start.query).toOption.map (List.map Value.display) =
      some ["print", "%red%", "%red%", "%red%", "print", "%fox%", "%fox%", "%fox%"] := by decide +kernel
  have first : (boundValues (cheapPrints.upToFilter.pieces .mysql false)).map Value.display = ["40"] := by
    decide +kernel
  have own : (boundValues (cheapPrints.pieces .mysql false)).map Value.display = ["40", "10"] := by decide +kernel
  obtain ⟨_, ran⟩ := Action.ran_of_isOk runs
  obtain ⟨values, statement, found, made, binds⟩ := runGlobal_binds rfl ran
  rw [made] at named
  obtain ⟨bound, listed⟩ := Except.ok_of_isOk named
  obtain ⟨later, front, added, back, inserts, whole, _⟩ := binds bound listed
  refine ⟨_, statement, bound, ran, made, listed, ?_⟩
  rw [found] at searched
  rw [← inserts.before] at first
  rw [inserts.own, List.map_append, first] at own
  rw [whole, List.map_append, List.map_append, first, List.append_cancel_left own, Option.some.inj searched]
  rfl

end Search

end DataGrid
