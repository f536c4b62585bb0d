import DataGrid.Proofs.SortRuns

/-! No name that a request supplies reaches the text of a statement but in a hole, quoted. Requests of one shape lead
to statements of one skeleton, and what fills a hole in both are names or JSON paths that stand at one place of both
requests. -/

namespace DataGrid

open Sql

variable {names paths : String → String → Prop} {adapter : Adapter}

private theorem glyphs_isTruth (dialect : Dialect) (left : Expr) (flag : Bool) :
    glyphs ((Atom.isTruth left flag).pieces dialect) =
      glyphsOf (dialect.expr left ++ " = ") ++ (ShownValue.truth flag).glyphs dialect := by
  rw [Atom.pieces, glyphs_text, glyphsOf_append]
  rfl

private theorem glyphs_equal (dialect : Dialect) (left : Expr) (value : Value) :
    glyphs ((Atom.compare left .equal value).pieces dialect) =
      glyphsOf (dialect.expr left ++ " = ") ++ (ShownValue.bound left.base value).glyphs dialect := by
  have sign : dialect.expr left ++ " " ++ Comparison.equal.sign ++ " " = dialect.expr left ++ " = " := by
    rw [String.append_assoc, String.append_assoc]
    rfl
  rw [Atom.pieces, sign]
  rfl

/-- A truth value that is written in place of a bound one fills the same hole. -/
theorem Sql.compare_skeletal {left other : Expr} {operator : Comparison} {value value' : Value} {test test' : Atom}
    (columns : Expr.Twin (skeletal adapter names paths) adapter.dialect left other) (some : value ≠ .null)
    (some' : value' ≠ .null) (made : compare left operator value = .ok test)
    (made' : compare other operator value' = .ok test') :
    Atom.Twin (skeletal adapter names paths) adapter.dialect test test' := by
  have opening : OneSkeleton adapter names paths (glyphsOf (adapter.dialect.expr left ++ " = "))
      (glyphsOf (adapter.dialect.expr other ++ " = ")) := skeletal_text.mp (Likeness.followed columns.written " = ")
  rcases compare_cases made with ⟨_, null, _⟩ | ⟨flag, rfl, rfl, rfl⟩ | rfl
  · exact absurd null some
  · rcases compare_cases made' with ⟨_, null, _⟩ | ⟨flag', _, rfl, rfl⟩ | rfl
    · exact absurd null some'
    · refine ⟨rfl, ?_⟩
      change OneSkeleton ..
      rw [glyphs_isTruth, glyphs_isTruth]
      exact opening.append (.value _ _)
    · refine ⟨rfl, ?_⟩
      change OneSkeleton ..
      rw [glyphs_isTruth, glyphs_equal]
      exact opening.append (.value _ _)
  · rcases compare_cases made' with ⟨_, null, _⟩ | ⟨flag', rfl, rfl, rfl⟩ | rfl
    · exact absurd null some'
    · refine ⟨rfl, ?_⟩
      change OneSkeleton ..
      rw [glyphs_isTruth, glyphs_equal]
      exact opening.append (.value _ _)
    · exact columns.compare operator value value'

theorem FilterOperator.predicate_skeletal {operator : FilterOperator} {left other : Expr} {value value' : Value}
    {test test' : Atom} (columns : Expr.Twin (skeletal adapter names paths) adapter.dialect left other)
    (some : value ≠ .null) (some' : value' ≠ .null) (made : operator.predicate left value = .ok test)
    (made' : operator.predicate other value' = .ok test') :
    Atom.Twin (skeletal adapter names paths) adapter.dialect test test' := by
  unfold predicate at made made'
  cases operator with
  | equal | unequal | greater | atLeast | less | atMost => exact compare_skeletal columns some some' made made'
  | startsWith | contains | lacks | endsWith | isEmpty | isNotEmpty =>
    exact compare_skeletal columns (by simp) (by simp) made made'
  | isNull | isNotNull =>
    cases made
    cases made'
    exact columns.isNull _

/-- Leaves that are both left out, or both kept under one operator, with fields that belong together. -/
structure FilterLeaf.SameShape (names : String → String → Prop) (first second : FilterLeaf) : Prop where
  operator : first.operator? = second.operator?
  field : names first.field.display second.field.display

theorem FilterLeaf.present_of_kept {leaf : FilterLeaf} {operator : FilterOperator}
    (kept : leaf.operator? = some operator) : leaf.value ≠ .null := by
  intro null
  simp [FilterLeaf.operator?, isIncomplete, null, Value.missing] at kept

theorem FilterLeaf.SameShape.twin {first second : FilterLeaf} (shape : SameShape names first second) :
    FilterLeaf.Twin (skeletal adapter names paths) adapter first second where
  operator := shape.operator
  tests kept made made' :=
    FilterOperator.predicate_skeletal (.of_names shape.field) (FilterLeaf.present_of_kept kept)
      (FilterLeaf.present_of_kept (shape.operator ▸ kept)) made made'

theorem Value.toColumnName_ok {value : Value} {name : String} (read : value.toColumnName = .ok name) :
    value = .text name := by
  cases value <;> cases read
  rfl

/-- The last of several segments has no point in it. -/
theorem PathSet.split?_undotted {declared : PathSet} {column path name : String}
    (found : declared.split? column = some (path, name)) : name.toList.contains '.' = false := by
  have last : Text.splitLast? '.' column = some (path, name) := (Option.filter_eq_some_iff.mp found).1
  unfold Text.splitLast? at last
  match listed : (Text.splitString '.' column).reverse, last with
  | _ :: _ :: _, same =>
    cases same
    have among : name ∈ Text.splitString '.' column := by
      rw [← List.mem_reverse, listed]
      exact .head _
    obtain ⟨segment, member, rfl⟩ := List.mem_map.mp among
    have without := Text.not_mem_segments '.' column.toList segment member
    simpa using without

/-- Names that a grid treats alike: it keeps both out or none, and both are a column of their own or one behind the same
relations. -/
structure Refresh.SameName (refresh : Refresh) (names : String → String → Prop) (first second : String) : Prop where
  named : names first second
  dotted : first.toList.contains '.' = second.toList.contains '.'
  excluded : refresh.excludes first = refresh.excludes second
  split : Option.Rel (fun one other =>
      refresh.registry.walk refresh.query.mainTable? one.1 = refresh.registry.walk refresh.query.mainTable? other.1 ∧
        names one.2 other.2)
    (refresh.paths.split? first) (refresh.paths.split? second)

/-- JSON paths and fallbacks that two columns both have or both lack. -/
structure SameParts (names paths : String → String → Prop) (path path' instead instead' : Value) : Prop where
  json : path = .null ↔ path' = .null
  fallback : instead = .null ↔ instead' = .null
  stepped {steps steps' : String} (one : path = .text steps) (other : path' = .text steps') : paths steps steps'
  named {name name' : String} (one : instead = .text name) (other : instead' = .text name') : names name name'

namespace SameParts

variable {path path' instead instead' : Value}

theorem none : SameParts names paths .null .null .null .null where
  json := .rfl
  fallback := .rfl
  stepped one := nomatch one
  named one := nomatch one

theorem fallbacks (parts : SameParts names paths path path' instead instead') {name other : String}
    (read : instead.toColumnName = .ok name) (read' : instead'.toColumnName = .ok other) :
    Expr.Twin (skeletal adapter names paths) adapter.dialect (adapter.column name) (adapter.column other) :=
  .of_names (parts.named (Value.toColumnName_ok read) (Value.toColumnName_ok read'))

/-- Columns with such parts are written alike, under their names and with their JSON paths. -/
theorem placed (parts : SameParts names paths path path' instead instead') {name other : String}
    (named : names name other) (dotted : name.toList.contains '.' = other.toList.contains '.') :
    Placed (Column.WrittenAs (skeletal adapter names paths) adapter path path') name other := by
  have written : Column.WrittenAs (skeletal adapter names paths) adapter path path' name other :=
    .of_names named fun _ _ => parts.stepped
  exact ⟨dotted, written, written.within⟩

end SameParts

namespace Refresh.SameName

variable {refresh : Refresh} {first second : String} {relation : String → String → Prop}

/-- What holds behind relations, too, holds of the names and of their last segments. -/
theorem place (same : refresh.SameName names first second)
    (alike : ∀ one two, names one two → one.toList.contains '.' = two.toList.contains '.' → Placed relation one two) :
    Placed relation first second ∧ Option.Rel (fun one other =>
        refresh.registry.walk refresh.query.mainTable? one.1 = refresh.registry.walk refresh.query.mainTable? other.1 ∧
          Placed relation one.2 other.2)
      (refresh.paths.split? first) (refresh.paths.split? second) := by
  refine ⟨alike _ _ same.named same.dotted, Option.Rel.imp same.split ?_⟩
  rintro one two found found' ⟨along, names⟩
  have dotted : one.2.toList.contains '.' = two.2.toList.contains '.' := by
    rw [PathSet.split?_undotted found, PathSet.split?_undotted found']
  exact ⟨along, alike _ _ names dotted⟩

end Refresh.SameName

/-- Columns with the same flags, names that a grid treats alike, and a keyword, a JSON path and a fallback that both
have or both lack. -/
structure Column.SameShape (refresh : Refresh) (names paths : String → String → Prop) (first second : Column) :
    Prop where
  searchable : first.searchable = second.searchable
  orderable : first.orderable = second.orderable
  regex : first.isRegex = second.isRegex
  keyword : first.searchValue = "" ↔ second.searchValue = ""
  name : refresh.SameName names first.name second.name
  parts : SameParts names paths first.jsonPath second.jsonPath first.fallback second.fallback

theorem Column.SameShape.paired {refresh : Refresh} {request : Request} {first second : Column}
    (shape : SameShape refresh names paths first second) (searches : refresh.searches = []) :
    Search.Paired (skeletal refresh.query.adapter names paths) refresh.query refresh.search
      { refresh with request := request }.search first second := by
  have without (name : String) : refresh.searches.lookup name = none := by
    rw [searches]
    rfl
  obtain ⟨own, split⟩ := shape.name.place fun _ _ named dotted => shape.parts.placed named dotted
  refine ⟨?_, shape.name.excluded, .inl ⟨without _, without _⟩⟩
  exact {
    searchable := shape.searchable
    regex := shape.regex
    sought := by simp [bne, shape.keyword]
    json := shape.parts.json
    fallback := shape.parts.fallback
    fallbacks := shape.parts.fallbacks
    own := own
    split := split }

/-- Terms of one direction, for columns that are alike. -/
structure OrderTerm.SameShape (refresh : Refresh) (names paths : String → String → Prop) (first second : OrderTerm) :
    Prop where
  direction : first.descending = second.descending
  name : refresh.SameName names first.column second.column
  parts : SameParts names paths first.jsonPath second.jsonPath first.fallback second.fallback

theorem OrderTerm.SameShape.paired {refresh : Refresh} {request : Request} {first second : OrderTerm}
    (shape : SameShape refresh names paths first second) (orders : refresh.orders = [])
    (plain : refresh.config.PlainNullsLast) :
    RowOrder.Paired (skeletal refresh.query.adapter names paths) refresh.query refresh.rowOrder
      { refresh with request := request }.rowOrder first second := by
  have without (name : String) : refresh.orders.lookup name = none := by
    rw [orders]
    rfl
  have written {name other : String} (columns : Column.WrittenAs (skeletal refresh.query.adapter names paths)
      refresh.query.adapter first.jsonPath second.jsonPath name other) :
      OrderTerm.WrittenAs (skeletal refresh.query.adapter names paths) refresh.config refresh.query.adapter first second
        name other :=
    OrderTerm.writtenAs_of_shape plain shape.direction shape.parts.json shape.parts.fallback
      (fun _ _ => shape.parts.fallbacks) columns
  obtain ⟨own, split⟩ := shape.name.place fun _ _ named dotted => shape.parts.placed named dotted
  refine ⟨shape.name.excluded, .inl ⟨without _, without _⟩, written own.alone, Option.Rel.imp split ?_⟩
  rintro one two _ _ ⟨along, placed⟩
  exact ⟨along, fun table => ⟨written (placed.within table), (placed.within table).names⟩⟩

/-- Requests of one shape, in a grid that treats their names alike: they have as many columns with the same flags and
parts, as many search words, sort fields that name the same column, and filters of one shape. Each part is compared
where it can be read in both. -/
structure Request.SameShape (refresh : Refresh) (names paths : String → String → Prop) (first second : Request) :
    Prop where
  columns {columns columns' : List Column} (read : first.columns = .ok columns)
    (read' : second.columns = .ok columns') : List.Forall₂ (Column.SameShape refresh names paths) columns columns'
  keyword {keyword keyword' : String} (read : first.keyword = .ok keyword) (read' : second.keyword = .ok keyword') :
    (refresh.config.terms keyword).length = (refresh.config.terms keyword').length
  direction {one other : Sorting} (read : first.sorting = .ok one) (read' : second.sorting = .ok other) :
    one.descending = other.descending
  unsorted {one other : Sorting} (read : first.sorting = .ok one) (read' : second.sorting = .ok other) :
    one.column = "" ↔ other.column = ""
  field {one other : Sorting} (read : first.sorting = .ok one) (read' : second.sorting = .ok other)
    (some : one.column ≠ "") : refresh.SameName names one.column other.column
  sorted {one other : Sorting} {columns columns' : List Column} (read : first.sorting = .ok one)
    (read' : second.sorting = .ok other) (listed : first.columns = .ok columns)
    (listed' : second.columns = .ok columns') :
    columns.findIdx? (fun column => column.name == one.column) =
      columns'.findIdx? fun column => column.name == other.column
  filters {value value' : Value} {tree tree' : Option FilterTree} (asked : first.filters = .ok value)
    (asked' : second.filters = .ok value') (read : (FilterTree.ofValue value).1 = .ok tree)
    (read' : (FilterTree.ofValue value').1 = .ok tree') :
    Option.Rel (fun one other => FilterNode.Alike (FilterLeaf.SameShape names) one.toNode other.toNode) tree tree'

/-- What stands at the first place that passes a test is related when that place is the same in both lists. -/
private theorem find?_same {α β : Type} {relation : α → β → Prop} {test : α → Bool} {other : β → Bool} {first : List α}
    {second : List β} (items : List.Forall₂ relation first second)
    (place : first.findIdx? test = second.findIdx? other) :
    Option.Rel relation (first.find? test) (second.find? other) := by
  induction items with
  | nil => exact .none
  | @cons one two _ _ head _ ih =>
    rw [List.findIdx?_cons, List.findIdx?_cons] at place
    rw [List.find?_cons, List.find?_cons]
    cases found : test one <;> cases found' : other two <;> simp only [found, found'] at place ⊢
    · exact ih (Option.map_injective (fun _ _ => Nat.succ.inj) place)
    · simp at place
    · simp at place
    · exact .some head

namespace Request.SameShape

variable {refresh : Refresh} {first second : Request}

/-- Requests of one shape order by terms of one shape, or by none. -/
theorem orderTerms (shape : Request.SameShape refresh names paths first second) {term term' : Option OrderTerm}
    (read : first.orderTerm? = .ok term) (read' : second.orderTerm? = .ok term') :
    Option.Rel (OrderTerm.SameShape refresh names paths) term term' := by
  obtain ⟨sorting, sorted, read⟩ := Except.bind_ok read
  obtain ⟨sorting', sorted', read'⟩ := Except.bind_ok read'
  have direction := shape.direction sorted sorted'
  by_cases unsorted : sorting.column = ""
  · simp only [unsorted, (shape.unsorted sorted sorted').mp unsorted, beq_self_eq_true, if_true] at read read'
    cases read
    cases read'
    exact .none
  · have field := shape.field sorted sorted' unsorted
    have unsorted' : sorting'.column ≠ "" := mt (shape.unsorted sorted sorted').mpr unsorted
    simp only [beq_iff_eq, unsorted, unsorted', if_false] at read read'
    obtain ⟨columns, listed, read⟩ := Except.bind_ok read
    obtain ⟨columns', listed', read'⟩ := Except.bind_ok read'
    have found := find?_same (shape.columns listed listed') (shape.sorted sorted sorted' listed listed')
    generalize columns.find? _ = one at found read
    generalize columns'.find? _ = other at found read'
    cases found with
    | none =>
      cases read
      cases read'
      exact .some ⟨direction, field, .none⟩
    | @some column column' head =>
      dsimp only at read read'
      rw [← head.orderable] at read'
      by_cases orderable : column.orderable = true
      · simp only [orderable, if_true] at read read'
        cases read
        cases read'
        exact .some ⟨direction, field, head.parts⟩
      · simp only [orderable] at read read'
        cases read
        cases read'
        exact .none

end Request.SameShape

namespace Refresh

/-- No column has an override, and no script stands for the order. -/
structure Automatic (refresh : Refresh) : Prop where
  searches : refresh.searches = []
  orders : refresh.orders = []
  script : refresh.orderScript = none

variable {refresh : Refresh} {request : Request}

theorem Automatic.twin (automatic : refresh.Automatic) (plain : refresh.config.PlainNullsLast)
    (shape : refresh.request.SameShape refresh names paths request) :
    Twin (skeletal refresh.query.adapter names paths) refresh { refresh with request := request } where
  query := .refl _
  search := {
    config := rfl
    registry := rfl
    paths := rfl
    columns := fun read read' => (shape.columns read read').imp fun _ _ columns => columns.paired automatic.searches
    terms := shape.keyword }
  order := {
    config := rfl
    registry := rfl
    paths := rfl
    script := ⟨automatic.script, automatic.script⟩
    terms := by
      intro term term' read read'
      refine Option.Rel.imp (shape.orderTerms read read') ?_
      intro one other _ _ terms
      exact terms.paired automatic.orders plain }
  trees asked asked' read read' := by
    refine Option.Rel.imp (shape.filters asked asked' read read') ?_
    intro one other _ _ nodes
    exact nodes.imp fun _ _ leaves => leaves.twin

/-- Two requests of one shape, and the same passes over both: wherever both come through, the statements come from one
skeleton, whose holes are filled with names, JSON paths and values alone, and any sort term that was added stands beside
one of the two directions. What `names` and `paths` hold of are the pairs that stand at one place of both requests. -/
theorem passes_skeleton (automatic : refresh.Automatic) (plain : refresh.config.PlainNullsLast)
    (shape : refresh.request.SameShape refresh names paths request) {passes : List Pass} {result result' : PUnit}
    {after after' : Refresh} (ran : passes.forM Pass.run refresh = (.ok result, after))
    (ran' : passes.forM Pass.run { refresh with request := request } = (.ok result', after')) :
    Except.Rel (fun statement other => OneSkeleton refresh.query.adapter names paths
        (glyphs (statement.pieces refresh.query.dialect false)) (glyphs (other.pieces refresh.query.dialect false)))
      after.query.select after'.query.select ∧ Sorted refresh after := by
  refine ⟨?_, passes_sorted automatic.orders automatic.script ran⟩
  have twins := passes_twin (automatic.twin plain shape) ran ran'
  exact twins.select.imp fun _ _ selects => selects.pieces false

/-- A column with a JSON path that is searched, one to order by, and one in a filter. -/
private def naming (searched path ordered filtered : String) : Request :=
  ⟨.object [("search", .object [("value", .text "w")]),
    ("columns", .list [.object [("data", .text searched), ("json", .text path), ("searchable", .bool true)],
      .object [("data", .text ordered)]]),
    ("filter", .object [("logic", .text "or"), ("filters", .list [.object [("field", .text filtered),
      ("operator", .text "eq"), ("value", .int 1)]])]),
    ("sort", .object [("sortBy", .text ordered), ("descending", .bool true)])]⟩

private def sheet : Refresh where
  request := naming "a" "p" "b" "c"
  config := { nullsLast := .bool true }
  query := Query.ofSelect Select.empty .mysql false
  registry := {}
  paths := PathSet.expand []

private def paired (pairs : List (String × String)) (first second : String) : Prop := (first, second) ∈ pairs

private theorem sheet_sameName {first second : String} (named : (first, second) ∈ [("a", "x y"), ("b", "select")]) :
    sheet.SameName (paired [("a", "x y"), ("b", "select"), ("c", "%")]) first second := by
  rcases List.mem_pair.mp named with same | same <;> cases same
  · exact ⟨.head _, by decide +kernel, rfl, .none⟩
  · exact ⟨.tail _ (.head _), by decide +kernel, rfl, .none⟩

private theorem sheet_sameShape :
    sheet.request.SameShape sheet (paired [("a", "x y"), ("b", "select"), ("c", "%")]) (paired [("p", "q'")])
      (naming "x y" "q'" "select" "%") where
  columns read read' := by
    cases read
    cases read'
    refine .cons ⟨rfl, rfl, rfl, .rfl, sheet_sameName (.head _), ?_⟩ (.cons ⟨rfl, rfl, rfl, .rfl, ?_, .none⟩ .nil)
    · refine ⟨⟨nofun, nofun⟩, .rfl, ?_, nofun⟩
      rintro _ _ ⟨⟩ ⟨⟩
      exact .head _
    · exact sheet_sameName (.tail _ (.head _))
  keyword read read' := by
    cases read
    cases read'
    rfl
  direction read read' := by
    cases read
    cases read'
    rfl
  unsorted read read' := by
    cases read
    cases read'
    decide
  field read read' _ := by
    cases read
    cases read'
    exact sheet_sameName (.tail _ (.head _))
  sorted read read' listed listed' := by
    cases read
    cases read'
    cases listed
    cases listed'
    rfl
  filters asked asked' read read' := by
    cases asked
    cases asked'
    cases read
    cases read'
    exact .some (.group .or (.cons (.leaf ⟨rfl, .tail _ (.tail _ (.head _))⟩) .nil))

theorem passes_skeleton_renamed :
    let passes : List Pass := [.globalSearch, .columnSearch, .treeFilter, .orderRows]
    let request := naming "x y" "q'" "select" "%"
    ∃ after after', passes.forM Pass.run sheet = (.ok ⟨⟩, after) ∧
      passes.forM Pass.run { sheet with request := request } = (.ok ⟨⟩, after') ∧
      Except.Rel (fun statement other => OneSkeleton sheet.query.adapter
          (paired [("a", "x y"), ("b", "select"), ("c", "%")]) (paired [("p", "q'")])
          (glyphs (statement.pieces sheet.query.dialect false)) (glyphs (other.pieces sheet.query.dialect false)))
        after.query.select after'.query.select ∧ Sorted sheet after := by
  intro passes request
  have done : (passes.forM Pass.run sheet).1.isOk = true := by decide +kernel
  have done' : (passes.forM Pass.run { sheet with request := request }).1.isOk = true := by decide +kernel
  obtain ⟨_, ran⟩ := Action.ran_of_isOk done
  obtain ⟨_, ran'⟩ := Action.ran_of_isOk done'
  have automatic : sheet.Automatic := ⟨rfl, rfl, rfl⟩
  have plain : sheet.config.PlainNullsLast := by
    rintro _ _ ⟨⟩
    decide
  exact ⟨_, _, ran, ran', passes_skeleton automatic plain sheet_sameShape ran ran'⟩

end Refresh

end DataGrid
