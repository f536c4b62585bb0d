import DataGrid.Proofs.CountedText

/-! What is counted in place of a statement. The counting statement wraps the statement with its own select list or with
one constant, and the constant comes only where no clause makes the rows depend on the list. All else stays, and so
do the values that are bound. -/

namespace DataGrid

open Sql

namespace Sql

variable {dialect : Dialect}

/-- Whether a piece binds no value. -/
def Piece.Silent : Piece → Prop
  | .text _ | .name _ | .numbered _ | .refused _ => True
  | _ => False

theorem valuesFrom_silent {pieces : List Piece} (silent : ∀ piece ∈ pieces, piece.Silent) (shared : List String)
    (rest : List Piece) : valuesFrom shared (pieces ++ rest) = valuesFrom shared rest := by
  induction pieces with
  | nil => rfl
  | cons piece more ih =>
    obtain ⟨head, tail⟩ := List.forall_mem_cons.mp silent
    cases piece with
    | text _ | name _ | numbered _ | refused _ => exact ih tail
    | bound _ _ | members _ _ _ | fragment _ | hidden _ _ => exact head.elim

theorem valuesFrom_text (shared : List String) (pieces : List Piece) (content : String) :
    valuesFrom shared (pieces ++ [.text content]) = valuesFrom shared pieces := by
  induction pieces generalizing shared with
  | nil => rfl
  | cons piece rest ih => cases piece <;> simp [valuesFrom, ih]

theorem separated_silent {separator : String} {lists : List (List Piece)}
    (silent : ∀ pieces ∈ lists, ∀ piece ∈ pieces, piece.Silent) :
    ∀ piece ∈ separated separator lists, piece.Silent := by
  induction lists with
  | nil => exact List.forall_mem_nil _
  | cons first rest ih =>
    obtain ⟨head, tail⟩ := List.forall_mem_cons.mp silent
    cases rest with
    | nil => exact head
    | cons second more =>
      refine List.forall_mem_append.mpr ⟨head, List.forall_mem_cons.mpr ⟨trivial, ih tail⟩⟩

theorem columnPieces_silent (inner derived : Bool) (before : List Item) (table name : String) :
    ∀ piece ∈ columnPieces dialect inner derived before table name, piece.Silent := by
  unfold columnPieces
  refine List.forall_mem_append.mpr ⟨?_, ?_⟩
  · cases derived <;> simp [Piece.Silent]
  · split_ifs <;> simp [Piece.Silent]

/-- A select list binds no value. -/
theorem itemPieces_silent (inner derived : Bool) (before items : List Item) :
    ∀ pieces ∈ itemPieces dialect inner derived before items, ∀ piece ∈ pieces, piece.Silent := by
  induction items generalizing before with
  | nil => exact List.forall_mem_nil _
  | cons item rest ih =>
    refine List.forall_mem_cons.mpr ⟨?_, ih (item :: before)⟩
    cases item with
    | column table name => exact columnPieces_silent inner derived before table name
    | _ => simp [constantPieces, Piece.Silent]

namespace Select

/-- What follows the select list of a statement, but for the opening of its source. -/
private def rest (dialect : Dialect) (statement : Select) : List Piece :=
  (match statement.source with
    | none => []
    | some source => joinedPieces dialect statement.joins source (source.pieces dialect)) ++
    (match statement.filter with
      | none => []
      | some cond => .text " \nWHERE " :: cond.written dialect) ++
    optionalClause " GROUP BY " (statement.groups.map fun e => [.text (dialect.expr e)]) ++
    (match statement.havingOver with
      | none => []
      | some n => [.text " \nHAVING count(*) > ", .bound "count" (.int n)]) ++
    optionalClause " ORDER BY " ((statement.sorts.map (SortTerm.pieces dialect)).filter (!·.isEmpty)) ++
    windowPieces dialect statement.offset statement.limit

private theorem boundValues_rest (statement : Select) (inner : Bool) :
    boundValues (statement.pieces dialect inner) = valuesFrom [] (statement.rest dialect) := by
  obtain ⟨distinct, items, source, joins, filter, groups, havingOver, sorts, offset, limit⟩ := statement
  rw [Select.pieces.eq_def, rest, boundValues]
  have listed : ∀ derived, ∀ piece ∈ separated ", " (itemPieces dialect inner derived [] items), piece.Silent :=
    fun derived => separated_silent (itemPieces_silent inner derived [] items)
  cases source with
  | none =>
    simp only [List.append_assoc, List.cons_append, valuesFrom]
    exact valuesFrom_silent (listed _) [] _
  | some source =>
    simp only [List.append_assoc, List.cons_append, valuesFrom]
    exact valuesFrom_silent (listed _) [] _

/-- The values of a statement are the same where it stands inside another. -/
theorem boundValues_inner (statement : Select) :
    boundValues (statement.pieces dialect true) = boundValues (statement.pieces dialect false) := by
  rw [boundValues_rest, boundValues_rest]

/-- The values of a statement go by none of its entries. -/
theorem boundValues_items (statement : Select) (items : List Item) :
    boundValues ({ statement with items := items }.pieces dialect false) =
      boundValues (statement.pieces dialect false) := by
  rw [boundValues_rest, boundValues_rest]
  rfl

theorem boundValues_counting (statement : Select) :
    boundValues (statement.counting.pieces dialect false) = boundValues (statement.pieces dialect true) := by
  have wrapped : boundValues (statement.counting.pieces dialect false) =
      valuesFrom [] (statement.pieces dialect true ++
        [.text (")" ++ dialect.aliasWord ++ dialect.bareName "count_row_table")]) := by
    rw [boundValues_rest]
    simp [rest, counting, Select.empty, joinedPieces, Source.pieces, Select.listPieces, separated, optionalClause,
      windowPieces, valuesFrom]
  rw [wrapped, valuesFrom_text, boundValues]

/-- Whether a clause of a statement makes its rows depend on the select list, or gives them an order. -/
def Arranged (dialect : Dialect) (statement : Select) : Prop :=
  statement.distinct = true ∨ statement.groups ≠ [] ∨ statement.havingOver.isSome ∨
    (∃ term ∈ statement.sorts, term.pieces dialect ≠ []) ∨
    ∃ name members, statement.source = some (.derived name members) ∧ 1 < members.length

private theorem mem_separated_union {first second : List Piece} {more : List (List Piece)} :
    Piece.text " UNION " ∈ separated " UNION " (first :: second :: more) :=
  List.mem_append_right _ (.head _)

private theorem mem_union (name : String) {members : List Select} (several : 1 < members.length) :
    Piece.text " UNION " ∈ (Source.derived name members).pieces dialect := by
  obtain ⟨first, second, more, rfl⟩ : ∃ first second more, members = first :: second :: more := by
    match members, several with
    | first :: second :: more, _ => exact ⟨first, second, more, rfl⟩
  rw [Source.pieces, Select.listPieces, Select.listPieces]
  exact .tail _ (List.mem_append_left _ mem_separated_union)

private theorem mem_optionalClause {opening : String} {lists : List (List Piece)} (some : lists ≠ []) :
    Piece.text opening ∈ optionalClause opening lists := by
  rw [optionalClause, if_neg (by simpa using some)]
  exact .head _

/-- The words by which clauses that arrange the rows of a statement are opened. -/
private def openings : List String :=
  ["SELECT DISTINCT ", " GROUP BY ", " \nHAVING count(*) > ", " ORDER BY ", " UNION "]

private theorem mem_openings {statement : Select} (arranged : statement.Arranged dialect) :
    ∃ opening ∈ openings, Piece.text opening ∈ statement.pieces dialect false := by
  obtain ⟨distinct, items, source, joins, filter, groups, havingOver, sorts, offset, limit⟩ := statement
  rw [Select.pieces.eq_def]
  rcases arranged with rfl | grouped | having | ⟨term, member, written⟩ | ⟨name, members, rfl, several⟩
  · exact ⟨"SELECT DISTINCT ", by simp [openings], by simp⟩
  · have shown : Piece.text " GROUP BY " ∈
        optionalClause " GROUP BY " (groups.map fun e => [.text (dialect.expr e)]) :=
      mem_optionalClause (by simpa using grouped)
    exact ⟨" GROUP BY ", by simp [openings], by simp [shown]⟩
  · obtain ⟨count, rfl⟩ := Option.isSome_iff_exists.mp having
    exact ⟨" \nHAVING count(*) > ", by simp [openings], by simp⟩
  · have shown : Piece.text " ORDER BY " ∈
        optionalClause " ORDER BY " ((sorts.map (SortTerm.pieces dialect)).filter (!·.isEmpty)) := by
      refine mem_optionalClause (List.ne_nil_of_mem (a := term.pieces dialect) ?_)
      exact List.mem_filter.mpr ⟨List.mem_map_of_mem member, by simpa using written⟩
    exact ⟨" ORDER BY ", by simp [openings], by simp [shown]⟩
  · have shown : Piece.text " UNION " ∈ (Source.derived name members).pieces dialect := mem_union name several
    exact ⟨" UNION ", by simp [openings], by simp [joinedPieces, shown]⟩

end Select

end Sql

namespace Query

/-- A clause that arranges the rows of a statement says a blocking word. -/
private theorem opening_blocks : ∀ opening ∈ Select.openings, Text.Simple opening.toList ∧
    ∃ word ∈ countBlockers, word.toList <:+: opening.toList.map Text.lowerChar := by
  simp only [Select.openings, List.forall_mem_cons]
  refine ⟨⟨by decide, "distinct", by decide, "select ".toList, " ".toList, by decide⟩,
    ⟨by decide, "group by", by decide, " ".toList, " ".toList, by decide⟩,
    ⟨by decide, "having", by decide, " \n".toList, " count(*) > ".toList, by decide⟩,
    ⟨by decide, "order by", by decide, " ".toList, " ".toList, by decide⟩,
    ⟨by decide, "union", by decide, " ".toList, " ".toList, by decide⟩, List.forall_mem_nil _⟩

theorem blocksCount_of_arranged {dialect : Dialect} {statement : Select} {text : String}
    (arranged : statement.Arranged dialect) (written : statement.placeholderSql dialect = .ok text) :
    blocksCount dialect statement = .ok true := by
  obtain ⟨opening, among, member⟩ := Select.mem_openings arranged
  obtain ⟨simple, word, blocker, said⟩ := opening_blocks opening among
  have inside : opening.toList <:+: text.toList := infix_written rfl member written
  have occurs := occursIn_of_infix (said.trans (Text.infix_lower simple inside))
  have written' : placeholderText dialect (statement.pieces dialect false) = .ok text := written
  rw [blocksCount, written', Except.ok_bind]
  exact congrArg Except.ok (List.any_eq_true.mpr ⟨word, blocker, occurs⟩)

/-- The text of a statement is all that can fail where the choice is made. -/
private theorem blocksCount_error {dialect : Dialect} {statement : Select} {failure : Error} :
    blocksCount dialect statement = .error failure ↔ statement.placeholderSql dialect = .error failure := by
  rw [blocksCount, Select.placeholderSql]
  cases placeholderText dialect (statement.pieces dialect false) with
  | error reason =>
    constructor <;> exact fun same => congrArg Except.error (Except.error.inj same)
  | ok text => exact iff_of_false (by rintro ⟨⟩) (by rintro ⟨⟩)

/-- How a statement is counted, once the choice between its select list and the constant is made. -/
private theorem countSelect_chosen {query : Query} {statement : Select} {blocked : Bool}
    (made : query.select = .ok statement) (chosen : blocksCount query.dialect statement = .ok blocked) :
    query.countSelect =
      if blocked then .ok statement.counting
      else if query.base.joins ≠ [] ∧ query.joins ≠ [] then .error .ambiguousJoin
      else .ok { statement with items := [.rowMark] }.counting := by
  rw [countSelect, made, Except.ok_bind, chosen, Except.ok_bind]
  cases blocked with
  | true => rfl
  | false =>
    by_cases joined : query.base.joins = [] <;> by_cases more : query.joins = [] <;> simp [joined, more] <;> rfl

theorem countSelect_ok {query : Query} {statement counted : Select} (made : query.select = .ok statement)
    (returned : query.countSelect = .ok counted) :
    ∃ kept, blocksCount query.dialect statement = .ok kept ∧ (statement.Arranged query.dialect → kept = true) ∧
      counted = (if kept then statement else { statement with items := [.rowMark] }).counting := by
  cases chosen : blocksCount query.dialect statement with
  | error reason =>
    rw [countSelect, made, Except.ok_bind, chosen] at returned
    cases returned
  | ok kept =>
    refine ⟨kept, rfl, fun arranged => ?_, ?_⟩
    · cases written : statement.placeholderSql query.dialect with
      | error reason => rw [blocksCount_error.mpr written] at chosen; cases chosen
      | ok text => exact Except.ok.inj (chosen.symm.trans (blocksCount_of_arranged arranged written))
    rw [countSelect_chosen made chosen] at returned
    cases kept with
    | true =>
      cases returned
      rfl
    | false =>
      rw [if_neg Bool.false_ne_true] at returned
      split_ifs at returned
      cases returned
      rfl

/-- Orders with who took them, from orders that come with what was bought. -/
private def taken (sorts : List SortTerm) : Query :=
  let base := { Select.empty with
    items := [.column "orders" "id"]
    source := some (.table ⟨"orders", none⟩)
    joins := [⟨false, ⟨"items", none⟩, .atom (.sameColumn (.column "orders" "item") (.column "items" "id"))⟩]
    sorts := sorts }
  let start := Query.ofSelect base .sqlite false
  (start.leftJoin ⟨"staff", none⟩ (joinCondition start.adapter "orders.by" "staff.id" none)).2

end Query

end DataGrid
