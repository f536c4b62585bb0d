import DataGrid.Proofs.MarkedValues
import DataGrid.Proofs.TwinPasses

/-! No value that a user types reaches the text of a statement. Requests that differ in such values only lead to the
same text with placeholders, and to the same text of the statement that counts. -/

namespace DataGrid

open Sql

/-- Leaves that are the same, or hold two texts for a value, none of them empty. -/
structure FilterLeaf.SameButValue (first second : FilterLeaf) : Prop where
  field : first.field = second.field
  operator : first.operator = second.operator
  value : first.value = second.value ∨
    ∃ s s', s ≠ "" ∧ s' ≠ "" ∧ first.value = .text s ∧ second.value = .text s'

namespace FilterLeaf

variable {adapter : Adapter} {first second : FilterLeaf}

theorem SameButValue.alike (same : SameButValue first second) : Value.Alike first.value second.value := by
  rcases same.value with equal | ⟨s, s', _, _, one, other⟩
  · rw [equal]
    exact .same _
  · rw [one, other]
    exact .text s s'

theorem SameButValue.operator?_eq (same : SameButValue first second) : first.operator? = second.operator? := by
  have missing : first.value.missing = second.value.missing := by
    rcases same.value with equal | ⟨s, s', full, full', one, other⟩
    · rw [equal]
    · rw [one, other]
      simp [Value.missing, full, full']
  rw [FilterLeaf.operator?, FilterLeaf.operator?, isIncomplete, isIncomplete, same.field, same.operator, missing]

theorem predicate_alike {operator : FilterOperator} {left : Expr} {value other : Value} {test test' : Atom}
    (alike : Value.Alike value other) (made : operator.predicate left value = .ok test)
    (made' : operator.predicate left other = .ok test') : Atom.Twin blanked adapter.dialect test test' := by
  cases operator with
  | equal | unequal | greater | atLeast | less | atMost =>
    rw [FilterOperator.predicate] at made made'
    exact compare_alike alike made made'
  | startsWith | contains | lacks | endsWith =>
    rw [FilterOperator.predicate] at made made'
    exact compare_alike (.text _ _) made made'
  | isNull | isNotNull =>
    cases made
    cases made'
    exact .refl _
  | isEmpty | isNotEmpty =>
    rw [FilterOperator.predicate] at made made'
    exact compare_alike (.same _) made made'

theorem SameButValue.twin (same : SameButValue first second) (adapter : Adapter) :
    FilterLeaf.Twin blanked adapter first second where
  operator := same.operator?_eq
  tests _ made made' := by
    rw [← same.field] at made'
    exact predicate_alike same.alike made made'

end FilterLeaf

/-- Columns that are the same but for the keyword, which both have or both lack. -/
structure Column.SameButKeyword (first second : Column) : Prop where
  same : second = { first with searchValue := second.searchValue }
  empty : first.searchValue = "" ↔ second.searchValue = ""

/-- Requests that differ only in what a user typed: the search words, of which there are as many in both, the keywords
of columns and the texts in a filter. Each part is compared where it can be read in both. -/
structure Request.SameButValues (config : Config) (first second : Request) : Prop where
  columns {columns columns' : List Column} (read : first.columns = .ok columns) (read' : second.columns = .ok columns') :
    List.Forall₂ Column.SameButKeyword columns columns'
  keyword {keyword keyword' : String} (read : first.keyword = .ok keyword) (read' : second.keyword = .ok keyword') :
    (config.terms keyword).length = (config.terms keyword').length
  sorting : first.sorting = second.sorting
  filters {value value' : Value} {tree tree' : Option FilterTree} (asked : first.filters = .ok value)
    (asked' : second.filters = .ok value') (read : (FilterTree.ofValue value).1 = .ok tree)
    (read' : (FilterTree.ofValue value').1 = .ok tree') :
    Option.Rel (fun one other => FilterNode.Alike FilterLeaf.SameButValue one.toNode other.toNode) tree tree'

theorem Column.WrittenAs.refl {like : Likeness} {adapter : Adapter} (path : Value) (name : String) :
    Column.WrittenAs like adapter path path name name where
  names := .refl _
  paths read read' := by
    cases read.symm.trans read'
    exact .refl _

theorem Column.SameButKeyword.twin {first second : Column} (same : SameButKeyword first second) {adapter : Adapter}
    {declared : PathSet} {follow : String → String → Prop} (reflexive : ∀ path, follow path path) :
    Column.Twin blanked adapter declared follow first second := by
  obtain ⟨equal, empty⟩ := same
  generalize second.searchValue = keyword at equal empty
  subst equal
  exact {
    searchable := rfl
    regex := rfl
    sought := by simp [bne, empty]
    json := .rfl
    fallback := .rfl
    fallbacks := by
      intro name other read read'
      cases read.symm.trans read'
      exact .refl _
    own := .refl (.refl first.jsonPath) _
    split := by
      cases declared.split? first.name with
      | none => exact .none
      | some along => exact .some ⟨reflexive _, .refl (.refl first.jsonPath) _⟩ }

theorem Column.SameButKeyword.find? {first second : List Column} (columns : List.Forall₂ SameButKeyword first second)
    (name : String) :
    Option.Rel SameButKeyword (first.find? fun column => column.name == name)
      (second.find? fun column => column.name == name) := by
  induction columns with
  | nil => exact .none
  | @cons one other _ _ head _ ih =>
    have named : one.name = other.name := by rw [head.same]
    rw [List.find?_cons, List.find?_cons, named]
    split
    · exact .some head
    · exact ih

/-- Requests that differ in such values only order by the same term. -/
theorem Request.SameButValues.orderTerm_eq {config : Config} {first second : Request}
    (same : Request.SameButValues config first second) {term term' : Option OrderTerm}
    (read : first.orderTerm? = .ok term) (read' : second.orderTerm? = .ok term') : term = term' := by
  obtain ⟨sorting, sorted, read⟩ := Except.bind_ok read
  obtain ⟨sorting', sorted', read'⟩ := Except.bind_ok read'
  rw [same.sorting, sorted'] at sorted
  cases sorted
  by_cases unsorted : (sorting.column == "") = true
  · simp only [unsorted, if_true] at read read'
    cases read
    cases read'
    rfl
  · simp only [unsorted] at read read'
    obtain ⟨columns, listed, read⟩ := Except.bind_ok read
    obtain ⟨columns', listed', read'⟩ := Except.bind_ok read'
    have found := Column.SameButKeyword.find? (same.columns listed listed') sorting.column
    generalize columns.find? _ = one at found read
    generalize columns'.find? _ = other at found read'
    cases found with
    | none => exact Except.ok.inj (read.symm.trans read')
    | @some one other head =>
      rw [head.same] at read'
      exact Except.ok.inj (read.symm.trans read')

namespace Refresh

/-- Overrides by named operations alone: those of the search take the mark of the keyword for a value or for bindings,
and no script stands for the order. -/
structure Declares (refresh : Refresh) : Prop where
  searches : ∀ entry ∈ refresh.searches, ∃ override, entry.2 = .named override ∧ override.bindsMarks = true
  orders : ∀ entry ∈ refresh.orders, ∃ override, entry.2 = .named override
  script : refresh.orderScript = none

variable {refresh : Refresh} {request : Request}

private theorem lookup_mem {α : Type} {pairs : List (String × α)} {name : String} {value : α}
    (found : pairs.lookup name = some value) : (name, value) ∈ pairs := by
  obtain ⟨before, after, same, _⟩ := List.lookup_eq_some_iff.mp found
  rw [same]
  exact List.mem_append_right _ (.head _)

theorem Declares.search_twin (declares : refresh.Declares)
    (same : refresh.request.SameButValues refresh.config request) :
    Search.Twin blanked refresh.query refresh.search { refresh with request := request }.search where
  config := rfl
  registry := rfl
  paths := rfl
  terms read read' := same.keyword read read'
  columns read read' := by
    refine (same.columns read read').imp ?_
    intro one other columns
    have named : one.name = other.name := by rw [columns.same]
    refine ⟨columns.twin fun _ => rfl, congrArg refresh.excludes named, ?_⟩
    cases found : refresh.searches.lookup one.name with
    | none => exact .inl ⟨found, named ▸ found⟩
    | some override =>
      obtain ⟨operation, rfl, binds⟩ := declares.searches _ (lookup_mem found)
      exact .inr ⟨named, operation, operation.alike_of_bindsMarks binds _ _, found, named ▸ found⟩

theorem Declares.order_twin (declares : refresh.Declares)
    (same : refresh.request.SameButValues refresh.config request) :
    RowOrder.Twin blanked refresh.query refresh.rowOrder { refresh with request := request }.rowOrder where
  config := rfl
  registry := rfl
  paths := rfl
  script := ⟨declares.script, declares.script⟩
  terms := by
    intro term term' read read'
    obtain rfl := same.orderTerm_eq read read'
    cases term with
    | none => exact .none
    | some term =>
      have written (name : String) :
          OrderTerm.WrittenAs blanked refresh.config refresh.query.adapter term term name name := by
        intro sql sql' made made'
        cases made.symm.trans made'
        exact .refl _
      refine .some ⟨rfl, ?_, written _, ?_⟩
      · cases found : refresh.orders.lookup term.column with
        | none => exact .inl ⟨found, found⟩
        | some override =>
          obtain ⟨operation, rfl⟩ := declares.orders _ (lookup_mem found)
          exact .inr ⟨rfl, rfl, operation, found, found⟩
      · change Option.Rel _ (refresh.paths.split? term.column) (refresh.paths.split? term.column)
        cases refresh.paths.split? term.column with
        | none => exact .none
        | some along => exact .some ⟨rfl, fun table => ⟨written _, .refl _⟩⟩

theorem Declares.twin (declares : refresh.Declares) (same : refresh.request.SameButValues refresh.config request) :
    Twin blanked refresh { refresh with request := request } where
  query := .refl _
  search := declares.search_twin same
  order := declares.order_twin same
  trees asked asked' read read' := by
    have nodes := same.filters asked asked' read read'
    cases nodes with
    | none => exact .none
    | some nodes => exact .some (nodes.imp fun _ _ leaves => leaves.twin _)

/-- Two requests that differ only in what a user typed, and the same passes over both: wherever both come through, the
statements have one text with placeholders, and so have the statements that count their rows; only bound values
differ. -/
theorem passes_sameText (declares : refresh.Declares) (same : refresh.request.SameButValues refresh.config request)
    {passes : List Pass} {result result' : PUnit} {after after' : Refresh}
    (ran : passes.forM Pass.run refresh = (.ok result, after))
    (ran' : passes.forM Pass.run { refresh with request := request } = (.ok result', after')) :
    Except.Rel (Select.SameText refresh.query.dialect) after.query.select after'.query.select ∧
      Except.Rel (Select.SameText refresh.query.dialect) after.query.countSelect after'.query.countSelect := by
  have twins := passes_twin (declares.twin same) ran ran'
  exact ⟨twins.sameText, twins.sameCount⟩

/-- A search word, a keyword of a column with an override, and a text in a filter. -/
private def typed (word own held : String) : Request :=
  ⟨.object [("search", .object [("value", .text word)]),
    ("columns", .list [.object [("data", .text "a"), ("searchable", .bool true)],
      .object [("data", .text "b"), ("searchable", .bool true), ("search", .object [("value", .text own)])]]),
    ("filter", .object [("logic", .text "or"), ("filters", .list [.object [("field", .text "c"),
      ("operator", .text "contains"), ("value", .text held)]])]),
    ("sort", .object [("sortBy", .text "a")])]⟩

private def grid : Refresh where
  request := typed "x y" "u" "v"
  config := {}
  query := Query.ofSelect Select.empty .sqlite false
  registry := {}
  paths := PathSet.expand []
  searches := [("b", .named ⟨.compare, [.text "like", .text "%$1%"]⟩)]

private theorem grid_declares : grid.Declares where
  searches := List.forall_mem_singleton.mpr ⟨_, rfl, by decide⟩
  orders _ member := by cases member
  script := rfl

private theorem grid_same : grid.request.SameButValues grid.config (typed "p q" "w" "z") where
  columns read read' := by
    cases read
    cases read'
    exact .cons ⟨rfl, by decide⟩ (.cons ⟨rfl, by decide⟩ .nil)
  keyword read read' := by
    cases read
    cases read'
    rfl
  sorting := rfl
  filters asked asked' read read' := by
    cases asked
    cases asked'
    cases read
    cases read'
    refine .some (.group .or (.cons (.leaf ⟨rfl, rfl, .inr ?_⟩) .nil))
    exact ⟨"v", "z", by decide, by decide, rfl, rfl⟩

theorem passes_sameText_typed :
    let passes : List Pass := [.globalSearch, .columnSearch, .treeFilter, .orderRows]
    ∃ after after', passes.forM Pass.run grid = (.ok ⟨⟩, after) ∧
      passes.forM Pass.run { grid with request := typed "p q" "w" "z" } = (.ok ⟨⟩, after') ∧
      Except.Rel (Select.SameText .sqlite) after.query.select after'.query.select ∧
      Except.Rel (Select.SameText .sqlite) after.query.countSelect after'.query.countSelect := by
  intro passes
  have done : (passes.forM Pass.run grid).1.isOk = true := by decide +kernel
  have done' : (passes.forM Pass.run { grid with request := typed "p q" "w" "z" }).1.isOk = true := by decide +kernel
  obtain ⟨_, ran⟩ := Action.ran_of_isOk done
  obtain ⟨_, ran'⟩ := Action.ran_of_isOk done'
  exact ⟨_, _, ran, ran', passes_sameText grid_declares grid_same ran ran'⟩

end Refresh

end DataGrid
