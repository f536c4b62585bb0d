import DataGrid.Proofs.RelatedRows

/-! What joins put beside a row. Each adds the rows that its condition is true of, and an outer one a row of nulls where
there are none. Along relations whose keys lie on the tables that they are joined from, these are the related rows, and
behind a row of nulls there are only such rows. -/

namespace DataGrid

open Sql

variable {Cell : Type}

/-- What stands in the place of a row that is not there. -/
def nullRow : TableRow Cell := fun _ => none

namespace Contents

section Joins
variable (contents : Contents Cell) (reader : Reader) (adapter : Adapter)

/-- Whether a condition is read as true in a scope. -/
def passes (scope : List (Frame Cell)) (cond : Cond) : Bool :=
  read? (contents.assignment reader adapter scope).value (cond.tokens reader) == some .yes

def matching (scope : List (Frame Cell)) (join : Join) : List (TableRow Cell) :=
  (contents.rows join.target.table).filter fun row => contents.passes reader adapter (⟨join.name, row⟩ :: scope) join.on

/-- The rows that a join puts beside those in scope. -/
def joinRows (scope : List (Frame Cell)) (join : Join) : List (TableRow Cell) :=
  match join.outer, contents.matching reader adapter scope join with
  | true, [] => [nullRow]
  | _, rows => rows

/-- The scopes that joins make of one, the last joined row first. -/
def joinScopes (scope : List (Frame Cell)) : List Join → List (List (Frame Cell))
  | [] => [scope]
  | join :: rest =>
    (contents.joinRows reader adapter scope join).flatMap fun row => joinScopes (⟨join.name, row⟩ :: scope) rest

end Joins

variable {contents : Contents Cell} {reader : Reader} {adapter : Adapter} {scope final : List (Frame Cell)}
  {join : Join} {joins : List Join}

theorem passes_iff {cond : Cond} (whole : cond.Whole reader) :
    contents.passes reader adapter scope cond = true ↔
      cond.value reader (contents.assignment reader adapter scope) = .yes := by
  rw [passes, (whole.reads _).1.read?, beq_iff_eq, Option.some.injEq]

theorem mem_matching {row : TableRow Cell} :
    row ∈ contents.matching reader adapter scope join ↔
      row ∈ contents.rows join.target.table ∧
        contents.passes reader adapter (⟨join.name, row⟩ :: scope) join.on = true :=
  List.mem_filter

/-- A matching row is always joined. -/
theorem joinRows_of_matching {row : TableRow Cell} (matches' : row ∈ contents.matching reader adapter scope join) :
    row ∈ contents.joinRows reader adapter scope join := by
  unfold joinRows
  split
  · next none =>
    rw [none] at matches'
    cases matches'
  · exact matches'

theorem joinRows_cases {row : TableRow Cell} (joined : row ∈ contents.joinRows reader adapter scope join) :
    row ∈ contents.matching reader adapter scope join ∨
      row = nullRow ∧ contents.matching reader adapter scope join = [] := by
  unfold joinRows at joined
  split at joined
  · next none => exact .inr ⟨List.mem_singleton.mp joined, none⟩
  · exact .inl joined

theorem mem_joinScopes_cons :
    final ∈ contents.joinScopes reader adapter scope (join :: joins) ↔
      ∃ row ∈ contents.joinRows reader adapter scope join,
        final ∈ contents.joinScopes reader adapter (⟨join.name, row⟩ :: scope) joins := by
  rw [joinScopes, List.mem_flatMap]

/-- Joins one after the other join to each scope that the first ones make. -/
theorem joinScopes_append (first second : List Join) :
    contents.joinScopes reader adapter scope (first ++ second) =
      (contents.joinScopes reader adapter scope first).flatMap fun between =>
        contents.joinScopes reader adapter between second := by
  induction first generalizing scope with
  | nil => exact (List.flatMap_singleton ..).symm
  | cons join rest ih =>
    rw [List.cons_append, joinScopes, joinScopes, List.flatMap_assoc]
    exact List.flatMap_congr fun row _ => ih

theorem mem_joinScopes_append {first second : List Join} :
    final ∈ contents.joinScopes reader adapter scope (first ++ second) ↔
      ∃ between ∈ contents.joinScopes reader adapter scope first,
        final ∈ contents.joinScopes reader adapter between second := by
  rw [joinScopes_append, List.mem_flatMap]

/-- Joins put rows of their tables in front of a scope. -/
theorem joinScopes_tables (made : final ∈ contents.joinScopes reader adapter scope joins) :
    ∃ frames, final = frames ++ scope ∧ frames.map Frame.table = (joins.map Join.name).reverse := by
  induction joins generalizing scope with
  | nil =>
    obtain rfl := List.mem_singleton.mp made
    exact ⟨[], rfl, rfl⟩
  | cons join rest ih =>
    obtain ⟨row, _, made⟩ := mem_joinScopes_cons.mp made
    obtain ⟨frames, rfl, named⟩ := ih made
    exact ⟨frames ++ [⟨join.name, row⟩], by simp, by simp [named]⟩

/-- Outer joins lose no row. -/
theorem exists_joinScope (outer : ∀ join ∈ joins, join.outer = true) (scope : List (Frame Cell)) :
    ∃ final, final ∈ contents.joinScopes reader adapter scope joins := by
  induction joins generalizing scope with
  | nil => exact ⟨scope, .head _⟩
  | cons join rest ih =>
    obtain ⟨kept, others⟩ := List.forall_mem_cons.mp outer
    have some : ∃ row, row ∈ contents.joinRows reader adapter scope join := by
      unfold joinRows
      rw [kept]
      cases contents.matching reader adapter scope join with
      | nil => exact ⟨nullRow, .head _⟩
      | cons row more => exact ⟨row, .head _⟩
    obtain ⟨row, joined⟩ := some
    obtain ⟨final, made⟩ := ih others (⟨join.name, row⟩ :: scope)
    exact ⟨final, mem_joinScopes_cons.mpr ⟨row, joined, made⟩⟩

/-- A row of nulls has null in everything that is taken from it. -/
theorem within_nullRow (expression : Expr) : contents.within adapter nullRow expression = none := by
  induction expression with
  | literal sql => exact Option.bind_eq_none_iff.mpr fun _ _ => rfl
  | column table name => rfl
  | lower inner ih => rw [within, ih, Option.map_none]
  | cast inner type ih => rw [within, ih, Option.bind_none]

/-- Null meets nothing. -/
theorem equal_none (other : Option Cell) : contents.equal none other ≠ .yes := nofun

theorem rowOf?_cons {table : String} {frame : Frame Cell} (separates : adapter.dialect.Separates)
    (apart : frame.table ≠ table) :
    rowOf? adapter (frame :: scope) (adapter.quoteIdentifier table) =
      rowOf? adapter scope (adapter.quoteIdentifier table) := by
  have quoted : (adapter.quoteIdentifier frame.table == adapter.quoteIdentifier table) = false :=
    beq_false_of_ne fun same => apart (Dialect.identifier_injective separates same)
  rw [rowOf?, List.find?_cons, quoted, rowOf?]

/-- Whether a table is in scope with no row of its own. -/
def Missing (adapter : Adapter) (scope : List (Frame Cell)) (table : String) : Prop :=
  rowOf? adapter scope (adapter.quoteIdentifier table) = some nullRow

theorem missing_head {table : String} : Missing adapter (⟨table, nullRow⟩ :: scope) table := rowOf?_head

/-- Where a table has no row, its columns are null. -/
theorem Missing.cell {table : String} {expression : Expr} (missing : Missing adapter scope table)
    (names : expression.NamesOnly adapter [table]) : contents.cell adapter scope expression = none := by
  obtain ⟨_, member, owner⟩ := names
  obtain rfl := List.mem_singleton.mp member
  rw [cell_owned owner missing, within_nullRow]

/-- A key of a missing row meets no other key. -/
theorem Missing.unequal {table first second : String} (missing : Missing adapter scope table)
    (anchored : ∃ key ∈ [first, second], (adapter.column key).NamesOnly adapter [table]) :
    contents.equal (contents.cell adapter scope (adapter.column first))
      (contents.cell adapter scope (adapter.column second)) ≠ .yes := by
  obtain ⟨key, member, names⟩ := anchored
  rcases List.mem_cons.mp member with rfl | member
  · rw [missing.cell names]
    exact equal_none _
  · obtain rfl := List.mem_singleton.mp member
    rw [missing.cell names, equal_comm]
    exact equal_none _

/-- A join compares its two keys, and tests what else it has to. -/
theorem joinCondition_passes {first second : String} {extra : Option Atom}
    (direct : ∀ test ∈ extra, test.Direct reader) :
    contents.passes reader adapter scope (Query.joinCondition adapter first second extra) = true ↔
      contents.equal (contents.cell adapter scope (adapter.column first))
          (contents.cell adapter scope (adapter.column second)) = .yes ∧
        ∀ test ∈ extra, contents.truth (contents.cell adapter scope) test = .yes := by
  have same := (Atom.sameColumn_direct (adapter.column first) (adapter.column second) reader).safe
  cases extra with
  | none =>
    rw [Query.joinCondition, passes_iff same.1, value_sameColumn, assignment_test, truth]
    simp
  | some test =>
    have typed := direct test rfl
    have whole : (Cond.join .and [.atom (.sameColumn (adapter.column first) (adapter.column second)), .atom test]).Whole
        reader :=
      Cond.join_whole (by simp) (by simp [same.1, typed.safe.1]) (by simp [same.2, typed.safe.2])
    rw [Query.joinCondition, passes_iff whole]
    simp [Cond.value_join, value_sameColumn, typed.value, truth, Truth.combine, Truth.neutral]

theorem untyped {reader : Reader} : ∀ test ∈ (none : Option Atom), test.Direct reader := fun _ none => nomatch none

theorem joinKeys_pass {first second : String} :
    contents.passes reader adapter scope (Query.joinCondition adapter first second none) = true ↔
      contents.equal (contents.cell adapter scope (adapter.column first))
        (contents.cell adapter scope (adapter.column second)) = .yes := by
  rw [joinCondition_passes untyped]
  simp

/-- Nothing is joined by a key of a missing row. -/
theorem joinRows_missing {table first second : String} {extra : Option Atom} {row : TableRow Cell}
    (separates : adapter.dialect.Separates) (joined : row ∈ contents.joinRows reader adapter scope join)
    (on : join.on = Query.joinCondition adapter first second extra)
    (direct : ∀ test ∈ extra, test.Direct reader)
    (anchored : ∃ key ∈ [first, second], (adapter.column key).NamesOnly adapter [table])
    (apart : join.name ≠ table) (missing : Missing adapter scope table) : row = nullRow := by
  rcases joinRows_cases joined with found | ⟨same, _⟩
  · have passed := (mem_matching.mp found).2
    rw [on] at passed
    have still : Missing adapter (⟨join.name, row⟩ :: scope) table := (rowOf?_cons separates apart).trans missing
    exact absurd ((joinCondition_passes direct).mp passed).1 (still.unequal anchored)
  · exact same

end Contents

namespace Relation

/-- The keys that link the tables of a relation to those that they are joined from. -/
def links (source : String) : Relation → List (String × List String)
  | belongsTo _ foreignKey ownerKey => [(source, [foreignKey, ownerKey])]
  | hasMany _ foreignKey localKey => [(source, [foreignKey, localKey])]
  | belongsToMany _ pivot parentKey pivotParentKey pivotRelatedKey relatedKey =>
    [(source, [pivotParentKey, parentKey]), (pivot, [pivotRelatedKey, relatedKey])]
  | polymorphic _ foreignKey otherKey _ _ => [(source, [foreignKey, otherKey])]

/-- Whether one key of each link lies on the table that is joined from. -/
def Anchored (adapter : Adapter) (links : List (String × List String)) : Prop :=
  ∀ link ∈ links, ∃ key ∈ link.2, (adapter.column key).NamesOnly adapter [link.1]

/-- Whether every join along relations is anchored, and can look at what it needs. -/
def AllAnchored (adapter : Adapter) : (source : String) → List Relation → Prop
  | _, [] => True
  | source, relation :: rest =>
    (relation.PivotFirst adapter source ∧ Anchored adapter (relation.links source)) ∧
      AllAnchored adapter relation.table rest

/-- Whether every join along relations but the first is anchored. The row that the first one starts from is there. -/
def Chained (adapter : Adapter) (source : String) : List Relation → Prop
  | [] => True
  | relation :: rest =>
    (relation.PivotFirst adapter source ∧ Anchored adapter (relation.links source).tail) ∧
      AllAnchored adapter relation.table rest

theorem AllAnchored.chained {adapter : Adapter} {source : String} {relations : List Relation}
    (anchored : AllAnchored adapter source relations) : Chained adapter source relations := by
  cases relations with
  | nil => trivial
  | cons relation rest =>
    exact ⟨⟨anchored.1.1, fun link member => anchored.1.2 link (List.mem_of_mem_tail member)⟩, anchored.2⟩

section Rows
variable {contents : Contents Cell} {reader : Reader} {adapter : Adapter} {scope final : List (Frame Cell)}
  {relation : Relation} {source : String}

open Contents

/-- A relation without a pivot table joins the rows that belong to the row that it starts from. -/
theorem joins_single (contents : Contents Cell) (reader : Reader) (adapter : Adapter)
    (single : relation.tables = [relation.table]) :
    ∃ on, relation.joins adapter = [⟨true, ⟨relation.table, none⟩, on⟩] ∧
      relation.brings contents = (contents.rows relation.table).map (fun row => [⟨relation.table, row⟩]) ∧
      ∀ scope row, contents.passes reader adapter (⟨relation.table, row⟩ :: scope) on = true ↔
        relation.Meets contents adapter (⟨relation.table, row⟩ :: scope) (⟨relation.table, row⟩ :: scope) := by
  cases relation with
  | belongsToMany table pivot parentKey pivotParentKey pivotRelatedKey relatedKey => simp [tables] at single
  | belongsTo table foreignKey ownerKey =>
    refine ⟨_, rfl, rfl, fun scope row => ?_⟩
    rw [joinKeys_pass, Meets, equal_comm]
  | hasMany table foreignKey localKey =>
    refine ⟨_, rfl, rfl, fun scope row => ?_⟩
    rw [joinKeys_pass, Meets]
  | polymorphic table foreignKey otherKey morphType morphClass =>
    refine ⟨_, rfl, rfl, fun scope row => ?_⟩
    rw [joinCondition_passes fun test made => morph_direct made, Meets]

/-- What a pivot table is linked by is the same before and after the related table is joined. -/
theorem cell_behind {pivot table : String} {between row own : TableRow Cell} {expression : Expr}
    (separates : adapter.dialect.Separates) (distinct : [source, pivot, table].Nodup)
    (present : rowOf? adapter scope (adapter.quoteIdentifier source) = some own)
    (names : expression.NamesOnly adapter [source, pivot]) :
    contents.cell adapter (⟨table, row⟩ :: ⟨pivot, between⟩ :: scope) expression =
      contents.cell adapter (⟨pivot, between⟩ :: scope) expression := by
  simp only [List.nodup_cons, List.mem_cons, not_or] at distinct
  obtain ⟨owner, member, spelled⟩ := names
  obtain ⟨found, there, elsewhere⟩ : ∃ found,
      rowOf? adapter (⟨pivot, between⟩ :: scope) (adapter.quoteIdentifier owner) = some found ∧ table ≠ owner := by
    rcases List.mem_cons.mp member with rfl | member
    · exact ⟨own, (rowOf?_cons separates (Ne.symm distinct.1.1)).trans present, Ne.symm distinct.1.2.1⟩
    · obtain rfl := List.mem_singleton.mp member
      exact ⟨between, rowOf?_head, Ne.symm distinct.2.1.1⟩
  rw [cell_owned spelled there, cell_owned spelled ((rowOf?_cons separates elsewhere).trans there)]

section Pivot
variable {table pivot parentKey pivotParentKey pivotRelatedKey relatedKey : String} {between row own : TableRow Cell}

/-- The rows that the joins over a pivot table put beside a row are those that belong to it. -/
private theorem pivot_passes (reader : Reader) (separates : adapter.dialect.Separates)
    (distinct : [source, pivot, table].Nodup)
    (present : rowOf? adapter scope (adapter.quoteIdentifier source) = some own)
    (first : (belongsToMany table pivot parentKey pivotParentKey pivotRelatedKey relatedKey).PivotFirst adapter
      source) :
    contents.passes reader adapter (⟨pivot, between⟩ :: scope)
          (Query.joinCondition adapter pivotParentKey parentKey none) = true ∧
        contents.passes reader adapter (⟨table, row⟩ :: ⟨pivot, between⟩ :: scope)
          (Query.joinCondition adapter pivotRelatedKey relatedKey none) = true ↔
      (belongsToMany table pivot parentKey pivotParentKey pivotRelatedKey relatedKey).Meets contents adapter
        (⟨table, row⟩ :: ⟨pivot, between⟩ :: scope) (⟨table, row⟩ :: ⟨pivot, between⟩ :: scope) := by
  rw [joinKeys_pass, joinKeys_pass, Meets]
  simp only [cell_behind separates distinct present first.1, cell_behind separates distinct present first.2]

end Pivot

variable {own : TableRow Cell}

/-- Rows that belong to one in scope are joined to it. -/
theorem joined_of_related {frames : List (Frame Cell)} (separates : adapter.dialect.Separates)
    (distinct : (source :: relation.tables).Nodup) (first : relation.PivotFirst adapter source)
    (present : rowOf? adapter scope (adapter.quoteIdentifier source) = some own)
    (brought : frames ∈ relation.brings contents)
    (meets : relation.Meets contents adapter (frames ++ scope) (frames ++ scope)) :
    frames ++ scope ∈ contents.joinScopes reader adapter scope (relation.joins adapter) := by
  by_cases single : relation.tables = [relation.table]
  · obtain ⟨on, joins, brings, passes⟩ := relation.joins_single contents reader adapter single
    rw [brings] at brought
    obtain ⟨row, held, rfl⟩ := List.mem_map.mp brought
    rw [joins, mem_joinScopes_cons]
    refine ⟨row, joinRows_of_matching (mem_matching.mpr ⟨held, ?_⟩), .head _⟩
    exact (passes scope row).mpr meets
  · cases relation with
    | belongsToMany table pivot parentKey pivotParentKey pivotRelatedKey relatedKey =>
      obtain ⟨⟨row, between⟩, pair, rfl⟩ := List.mem_map.mp brought
      obtain ⟨held, linked⟩ := List.pair_mem_product.mp pair
      have passes := (pivot_passes reader separates distinct present first).mpr meets
      rw [joins, mem_joinScopes_cons]
      refine ⟨between, joinRows_of_matching (mem_matching.mpr ⟨linked, passes.1⟩), ?_⟩
      rw [mem_joinScopes_cons]
      exact ⟨row, joinRows_of_matching (mem_matching.mpr ⟨held, passes.2⟩), .head _⟩
    | _ => exact absurd rfl single

/-- What is joined to a row belongs to it, or else nothing is there. -/
theorem related_of_joined (separates : adapter.dialect.Separates) (distinct : (source :: relation.tables).Nodup)
    (first : relation.PivotFirst adapter source) (anchored : Anchored adapter (relation.links source).tail)
    (present : rowOf? adapter scope (adapter.quoteIdentifier source) = some own)
    (joined : final ∈ contents.joinScopes reader adapter scope (relation.joins adapter)) :
    (∃ frames ∈ relation.brings contents, relation.Meets contents adapter (frames ++ scope) (frames ++ scope) ∧
        final = frames ++ scope) ∨
      Missing adapter final relation.table := by
  by_cases single : relation.tables = [relation.table]
  · obtain ⟨on, joins, brings, passes⟩ := relation.joins_single contents reader adapter single
    rw [joins, mem_joinScopes_cons] at joined
    obtain ⟨row, joined, made⟩ := joined
    obtain rfl := List.mem_singleton.mp made
    rcases joinRows_cases joined with found | ⟨rfl, _⟩
    · obtain ⟨held, passed⟩ := mem_matching.mp found
      refine .inl ⟨[⟨relation.table, row⟩], ?_, (passes scope row).mp passed, rfl⟩
      rw [brings]
      exact List.mem_map.mpr ⟨row, held, rfl⟩
    · exact .inr missing_head
  · cases relation with
    | belongsToMany table pivot parentKey pivotParentKey pivotRelatedKey relatedKey =>
      rw [joins, mem_joinScopes_cons] at joined
      obtain ⟨between, outer, joined⟩ := joined
      obtain ⟨row, inner, made⟩ := mem_joinScopes_cons.mp joined
      obtain rfl := List.mem_singleton.mp made
      rcases joinRows_cases outer with found | ⟨rfl, _⟩
      · obtain ⟨linked, first'⟩ := mem_matching.mp found
        rcases joinRows_cases inner with found | ⟨rfl, _⟩
        · obtain ⟨held, second⟩ := mem_matching.mp found
          refine .inl ⟨[⟨table, row⟩, ⟨pivot, between⟩], ?_, ?_, rfl⟩
          · exact List.mem_map.mpr ⟨(row, between), List.pair_mem_product.mpr ⟨held, linked⟩, rfl⟩
          · exact (pivot_passes reader separates distinct present first).mp ⟨first', second⟩
        · exact .inr missing_head
      -- A pivot row that is not there has no key by which a related row could be joined.
      · have behind : table ≠ pivot := by
          rintro rfl
          exact (List.nodup_cons.mp (List.nodup_cons.mp distinct).2).1 (.head _)
        obtain rfl := joinRows_missing separates inner rfl untyped (anchored _ (.head _)) behind missing_head
        exact .inr missing_head
    | _ => exact absurd rfl single

private theorem missing_of_single {table first second : String} {extra : Option Atom}
    (separates : adapter.dialect.Separates) (distinct : [source, table].Nodup)
    (direct : ∀ test ∈ extra, test.Direct reader)
    (anchored : Anchored adapter [(source, [first, second])]) (missing : Missing adapter scope source)
    (joined : final ∈ contents.joinScopes reader adapter scope
      [⟨true, ⟨table, none⟩, Query.joinCondition adapter first second extra⟩]) : Missing adapter final table := by
  have other : table ≠ source := fun same => (List.nodup_cons.mp distinct).1 (same ▸ .head _)
  obtain ⟨row, beside, made⟩ := mem_joinScopes_cons.mp joined
  obtain rfl := List.mem_singleton.mp made
  obtain rfl := joinRows_missing separates beside rfl direct (anchored _ (.head _)) other missing
  exact missing_head

/-- Nothing belongs to a row that is not there. -/
theorem missing_of_joined (separates : adapter.dialect.Separates) (distinct : (source :: relation.tables).Nodup)
    (anchored : Anchored adapter (relation.links source)) (missing : Missing adapter scope source)
    (joined : final ∈ contents.joinScopes reader adapter scope (relation.joins adapter)) :
    Missing adapter final relation.table := by
  cases relation with
  | belongsTo | hasMany => exact missing_of_single separates distinct untyped anchored missing joined
  | polymorphic =>
    exact missing_of_single separates distinct (fun _ made => morph_direct made) anchored missing joined
  | belongsToMany table pivot parentKey pivotParentKey pivotRelatedKey relatedKey =>
    simp only [tables, List.nodup_cons, List.mem_cons, not_or] at distinct
    obtain ⟨between, outer, joined⟩ := mem_joinScopes_cons.mp joined
    obtain ⟨row, inner, made⟩ := mem_joinScopes_cons.mp joined
    obtain rfl := List.mem_singleton.mp made
    obtain rfl := joinRows_missing separates outer rfl untyped (anchored _ (.head _)) (Ne.symm distinct.1.1) missing
    obtain rfl := joinRows_missing separates inner rfl untyped (anchored _ (.tail _ (.head _)))
      (Ne.symm distinct.2.1.1) missing_head
    exact missing_head

/-- The table that relations lead to. -/
def leads (source : String) : List Relation → String
  | [] => source
  | relation :: rest => leads relation.table rest

theorem leads_last (source : String) (first : Relation) (rest : List Relation) :
    leads source (first :: rest) = ((first :: rest).getLast (List.cons_ne_nil _ _)).table := by
  induction rest generalizing source first with
  | nil => rfl
  | cons next rest ih =>
    rw [leads, ih first.table next, List.getLast_cons (List.cons_ne_nil _ _)]

theorem distinct_cons {rest : List Relation} (distinct : (source :: (relation :: rest).flatMap Relation.tables).Nodup) :
    (source :: relation.tables).Nodup ∧ (relation.table :: rest.flatMap Relation.tables).Nodup := by
  rw [List.flatMap_cons, ← List.cons_append] at distinct
  obtain ⟨own, others, apart⟩ := List.nodup_append.mp distinct
  refine ⟨own, List.nodup_cons.mpr ⟨fun again => ?_, others⟩⟩
  exact apart _ (.tail _ relation.table_mem_tables) _ again rfl

/-- Along anchored joins nothing is found behind a row that is not there. -/
theorem missing_of_path {relations : List Relation} (separates : adapter.dialect.Separates)
    (distinct : (source :: relations.flatMap Relation.tables).Nodup) (anchored : AllAnchored adapter source relations)
    (missing : Missing adapter scope source)
    (joined : final ∈ contents.joinScopes reader adapter scope (relations.flatMap (Relation.joins adapter))) :
    Missing adapter final (leads source relations) := by
  induction relations generalizing source scope with
  | nil =>
    obtain rfl := List.mem_singleton.mp joined
    exact missing
  | cons relation rest ih =>
    obtain ⟨between, first, joined⟩ := mem_joinScopes_append.mp joined
    obtain ⟨own, later⟩ := distinct_cons distinct
    exact ih later anchored.2 (missing_of_joined separates own anchored.1.2 missing first) joined

/-- Where a condition holds of no row that is missing, the rows that are joined along relations have one with it exactly
when related rows lead to one with it. -/
theorem joined_iff_reaches {relations : List Relation} {holds : List (Frame Cell) → Prop}
    (separates : adapter.dialect.Separates) (distinct : (source :: relations.flatMap Relation.tables).Nodup)
    (chained : Chained adapter source relations)
    (present : rowOf? adapter scope (adapter.quoteIdentifier source) = some own)
    (there : ∀ final, Missing adapter final (leads source relations) → ¬ holds final) :
    (∃ final ∈ contents.joinScopes reader adapter scope (relations.flatMap (Relation.joins adapter)), holds final) ↔
      Reaches contents adapter true holds scope relations := by
  induction relations generalizing source scope own with
  | nil => simp [joinScopes, Reaches]
  | cons relation rest ih =>
    obtain ⟨⟨first, anchored⟩, behind⟩ := chained
    obtain ⟨apart, later⟩ := distinct_cons distinct
    have next {frames : List (Frame Cell)} (brought : frames ∈ relation.brings contents) :
        (∃ final ∈ contents.joinScopes reader adapter (frames ++ scope) (rest.flatMap (Relation.joins adapter)),
          holds final) ↔ Reaches contents adapter true holds (frames ++ scope) rest := by
      obtain ⟨row, others, rfl⟩ := brings_head brought
      exact ih later behind.chained rowOf?_head there
    constructor
    · rintro ⟨final, joined, held⟩
      obtain ⟨between, one, more⟩ := mem_joinScopes_append.mp joined
      rcases related_of_joined separates apart first anchored present one with ⟨frames, brought, meets, rfl⟩ | missing
      · exact ⟨frames, brought, meets, (next brought).mp ⟨final, more, held⟩⟩
      -- Without a row here there is none at the end of the path, and of that nothing holds.
      · have gone : Missing adapter final (leads relation.table rest) :=
          missing_of_path separates later behind missing more
        exact absurd held (there final gone)
    · rintro ⟨frames, brought, meets, reached⟩
      obtain ⟨final, more, held⟩ := (next brought).mpr reached
      refine ⟨final, mem_joinScopes_append.mpr ⟨frames ++ scope, ?_, more⟩, held⟩
      exact joined_of_related separates apart first present brought meets

/-- A search along subqueries is true exactly when one of the rows that are joined along the same relations passes. -/
theorem existsThrough_joined {first : Relation} {rest : List Relation} {test : Cond} (safe : test.Safe reader)
    (separates : adapter.dialect.Separates) (distinct : (source :: (first :: rest).flatMap Relation.tables).Nodup)
    (chained : Chained adapter source (first :: rest))
    (present : rowOf? adapter scope (adapter.quoteIdentifier source) = some own)
    (there : ∀ final, Missing adapter final (leads source (first :: rest)) →
      test.value reader (contents.assignment reader adapter final) ≠ .yes) :
    (first.existsThrough adapter (some test) rest).value reader (contents.assignment reader adapter scope) = .yes ↔
      ∃ final ∈ contents.joinScopes reader adapter scope ((first :: rest).flatMap (Relation.joins adapter)),
        test.value reader (contents.assignment reader adapter final) = .yes := by
  have whole : ∀ condition ∈ some test, condition.Whole reader := by
    rintro _ ⟨⟩
    exact safe.1
  have chain : (∃ final ∈ contents.joinScopes reader adapter scope ((first :: rest).flatMap (Relation.joins adapter)),
      Accepts reader (contents.assignment reader adapter final) (some test)) ↔ _ :=
    joined_iff_reaches separates distinct chained present fun final missing accepted =>
      there final missing ((accepts_cond safe.1).mp accepted)
  rw [existsThrough_iff whole, ← chain]
  simp only [accepts_cond safe.1]

end Rows

end Relation

end DataGrid
