import DataGrid.Query
import DataGrid.Proofs.StoreGrowth
import DataGrid.Proofs.TwinConditions
import DataGrid.Proofs.TwinRuns

/-! Two runs side by side: their queries. Stores whose groups hold twins entry by entry are read as twins, and queries
that differ only in twin conditions, select list entries and sort terms come to statements that are written alike. -/

namespace DataGrid

open Sql

variable {like : Likeness} {dialect : Dialect}

inductive Entry.Twin (like : Likeness) (dialect : Dialect) : Entry → Entry → Prop where
  | cond {first second} (twins : Cond.Twin like dialect first second) : Twin like dialect (.cond first) (.cond second)
  | settled (flag : Bool) : Twin like dialect (.settled flag) (.settled flag)
  | group (id : GroupId) : Twin like dialect (.group id) (.group id)

theorem Entry.Twin.refl (entry : Entry) : Entry.Twin like dialect entry entry := by
  cases entry with
  | cond condition => exact .cond (.refl condition)
  | settled flag => exact .settled flag
  | group inner => exact .group inner

/-- Stores of the same groups, each with the same words and twin entries. -/
structure Store.Twin (like : Likeness) (dialect : Dialect) (first second : Store) : Prop where
  size : first.size = second.size
  entries (id : Nat) :
    List.Forall₂ (fun a b => a.1 = b.1 ∧ Entry.Twin like dialect a.2 b.2) (first.entries id) (second.entries id)

namespace Store

variable {first second : Store}

theorem Twin.refl (store : Store) : Store.Twin like dialect store store where
  size := rfl
  entries _ := List.forall₂_same.mpr fun entry _ => ⟨rfl, .refl entry.2⟩

theorem Twin.fresh (twins : Store.Twin like dialect first second) :
    Store.Twin like dialect first.fresh.2 second.fresh.2 where
  size := by rw [size_fresh, size_fresh, twins.size]
  entries id := by
    rw [entries_fresh, entries_fresh]
    exact twins.entries id

theorem Twin.add (twins : Store.Twin like dialect first second) (id : Nat) (junction : Junction) {entry other : Entry}
    (entries : Entry.Twin like dialect entry other) :
    Store.Twin like dialect (first.add id junction entry) (second.add id junction other) where
  size := by rw [size_add, size_add, twins.size]
  entries group := by
    by_cases same : group = id
    · subst same
      by_cases inside : group < first.size
      · rw [entries_add_same _ _ inside, entries_add_same _ _ (twins.size ▸ inside)]
        exact List.rel_append (twins.entries group) (.cons ⟨rfl, entries⟩ .nil)
      · have outside : second.size ≤ group := by
          rw [← twins.size]
          omega
        rw [entries_eq_nil (by rw [size_add]; omega), entries_eq_nil (by rw [size_add]; exact outside)]
        exact .nil
    · rw [entries_add_other _ _ same, entries_add_other _ _ same]
      exact twins.entries group

theorem Twin.nested (twins : Store.Twin like dialect first second) (id : Nat) (junction : Junction) :
    (first.nested id junction).1 = (second.nested id junction).1 ∧
      Store.Twin like dialect (first.nested id junction).2 (second.nested id junction).2 := by
  have inner : first.fresh.1 = second.fresh.1 := twins.size
  have opened (store : Store) :
      (store.nested id junction).2 = store.fresh.2.add id junction (.group store.fresh.1) := rfl
  refine ⟨inner, ?_⟩
  rw [opened, opened, inner]
  exact twins.fresh.add id junction (.group _)

/-- A call whose arguments come to twin entries under one word keeps stores twins. -/
theorem Twin.call {adapter : Adapter} {store store' grown grown' : Store} {id : GroupId} {method : GroupMethod}
    {arguments arguments' : List Argument} (stores : Store.Twin like adapter.dialect store store')
    (entries : ∀ made made', method.entry adapter arguments = .ok made → method.entry adapter arguments' = .ok made' →
      Entry.Twin like adapter.dialect made.1 made'.1 ∧ made.2 = made'.2)
    (called : store.call adapter id method arguments = .ok grown)
    (called' : store'.call adapter id method arguments' = .ok grown') :
    Store.Twin like adapter.dialect grown grown' := by
  obtain ⟨made, read, added⟩ := Except.bind_ok called
  obtain ⟨made', read', added'⟩ := Except.bind_ok called'
  obtain ⟨twins, same⟩ := entries made made' read read'
  obtain ⟨junction, word, rfl⟩ := Except.map_ok added
  obtain ⟨junction', word', rfl⟩ := Except.map_ok added'
  rw [same, word'] at word
  cases word
  exact stores.add id junction twins

theorem Twin.depth (twins : Store.Twin like dialect first second) (steps : Nat) :
    first.depth steps = second.depth steps := by
  have sizes : first.groups.length = second.groups.length := twins.size
  rw [Store.depth, Store.depth, sizes]

theorem Twin.isEmpty (twins : Store.Twin like dialect first second) (id : GroupId) :
    first.isEmpty id = second.isEmpty id := by
  have within (depth : Nat) (id : GroupId) : first.emptyWithin depth id = second.emptyWithin depth id := by
    induction depth generalizing id with
    | zero => rfl
    | succ depth ih =>
      rw [emptyWithin, emptyWithin]
      refine Except.allM_eq (twins.entries id) ?_
      rintro ⟨_, entry⟩ ⟨_, other⟩ ⟨_, entries⟩
      cases entries with
      | cond _ | settled _ => rfl
      | group inner => exact ih inner
  rw [Store.isEmpty, Store.isEmpty, twins.depth, within]

theorem Twin.entryClause {one other : Entry} {read read' : GroupId → Except Error (Option Clause)}
    (twins : Store.Twin like dialect first second) (entries : Entry.Twin like dialect one other)
    (groups : ∀ id, Except.Rel (Option.Rel (Clause.Twin like dialect)) (read id) (read' id)) :
    Except.Rel (Option.Rel (Clause.Twin like dialect)) (first.entryClause read one)
      (second.entryClause read' other) := by
  cases entries with
  | cond twins => exact .ok (.some (.cond twins))
  | settled flag => exact .ok (.some (.settled flag))
  | group inner =>
    rw [Store.entryClause, Store.entryClause, twins.isEmpty]
    refine (Except.Rel.refl (fun _ => rfl) (second.isEmpty inner)).bind ?_
    rintro empty _ rfl
    cases empty with
    | true => exact .ok .none
    | false =>
      refine (groups inner).bind ?_
      rintro _ _ (clauses | _)
      · cases clauses with
        | cond twins => exact .ok (.some (.cond (.group twins)))
        | settled flag => exact .error _
      · exact .ok .none

/-- Twin stores are read alike, their failures included. -/
theorem Twin.clause (twins : Store.Twin like dialect first second) (id : GroupId) :
    Except.Rel (Option.Rel (Clause.Twin like dialect)) (first.clause? id) (second.clause? id) := by
  have within (depth : Nat) (id : GroupId) :
      Except.Rel (Option.Rel (Clause.Twin like dialect)) (first.clauseWithin depth id)
        (second.clauseWithin depth id) := by
    induction depth generalizing id with
    | zero => exact .error _
    | succ depth ih =>
      rw [clauseWithin, clauseWithin]
      have each : Except.Rel
          (List.Forall₂ (Option.Rel fun a b => a.1 = b.1 ∧ Clause.Twin like dialect a.2 b.2))
          ((first.entries id).mapM fun entry =>
            return (← first.entryClause (first.clauseWithin depth) entry.2).map fun clause => (entry.1, clause))
          ((second.entries id).mapM fun entry =>
            return (← second.entryClause (second.clauseWithin depth) entry.2).map fun clause => (entry.1, clause)) := by
        refine Except.Rel.mapM (twins.entries id) ?_
        rintro ⟨word, entry⟩ ⟨_, other⟩ ⟨rfl, entries⟩
        refine (twins.entryClause entries ih).bind ?_
        rintro _ _ (clauses | _)
        · exact .ok (.some ⟨rfl, clauses⟩)
        · exact .ok .none
      refine each.bind fun clauses clauses' each => .ok (fold_twin ?_)
      clear ih
      induction each with
      | nil => exact .nil
      | cons head _ ih =>
        cases head with
        | none => exact ih
        | some head => exact .cons head ih
  rw [Store.clause?, Store.clause?, twins.depth]
  exact within _ id

end Store

section Written

/-- List entries that are the same, or texts that are written alike. -/
inductive Sql.Item.Twin (like : Likeness) (dialect : Dialect) : Item → Item → Prop where
  | same (item : Item) : Twin like dialect item item
  | text {first second : String} (alike : like.relates [.text (dialect.plain first)] [.text (dialect.plain second)]) :
      Twin like dialect (.text first) (.text second)

/-- Sort terms that are written alike, or both not at all. -/
structure Sql.SortTerm.Twin (like : Likeness) (dialect : Dialect) (first second : SortTerm) : Prop where
  pieces : like.relates (first.pieces dialect) (second.pieces dialect)
  empty : (first.pieces dialect).isEmpty = (second.pieces dialect).isEmpty

theorem Sql.SortTerm.Twin.refl (term : SortTerm) : SortTerm.Twin like dialect term term := ⟨like.refl _, rfl⟩

/-- Statements that differ in twin select list entries, conditions and sort terms only. -/
structure Sql.Select.Twin (like : Likeness) (dialect : Dialect) (first second : Select) : Prop where
  distinct : first.distinct = second.distinct
  source : first.source = second.source
  joins : first.joins = second.joins
  groups : first.groups = second.groups
  havingOver : first.havingOver = second.havingOver
  offset : first.offset = second.offset
  limit : first.limit = second.limit
  items : List.Forall₂ (Item.Twin like dialect) first.items second.items
  filter : Option.Rel (Cond.Twin like dialect) first.filter second.filter
  sorts : List.Forall₂ (SortTerm.Twin like dialect) first.sorts second.sorts

theorem Sql.any_twin {test : Item → Bool} (texts : ∀ a b, test (.text a) = test (.text b)) {first second : List Item}
    (items : List.Forall₂ (Item.Twin like dialect) first second) : first.any test = second.any test := by
  induction items with
  | nil => rfl
  | cons head _ ih =>
    rw [List.any_cons, List.any_cons, ih]
    cases head with
    | same => rfl
    | text alike => rw [texts]

theorem Sql.contains_twin {item : Item} (texts : ∀ a b, (item == .text a) = (item == .text b))
    {first second : List Item}
    (items : List.Forall₂ (Item.Twin like dialect) first second) : first.contains item = second.contains item := by
  rw [List.contains_eq_any_beq, List.contains_eq_any_beq]
  exact any_twin texts items

/-- What is written of an entry goes by the names before it, and texts have none. -/
theorem Sql.itemPieces_twin {inner derived : Bool} {first second before before' : List Item}
    (items : List.Forall₂ (Item.Twin like dialect) first second)
    (earlier : List.Forall₂ (Item.Twin like dialect) before before') :
    List.Forall₂ like.relates (itemPieces dialect inner derived before first)
      (itemPieces dialect inner derived before' second) := by
  induction items generalizing before before' with
  | nil => exact .nil
  | @cons item other rest more head tail ih =>
    have later := ih (.cons head earlier)
    cases head with
    | text alike => exact .cons alike later
    | same =>
      refine .cons ?_ later
      cases item with
      | text _ | part _ _ | lowered _ | rowMark | rowCount => exact like.refl _
      | column table name =>
        have held : before.contains (.column table name) = before'.contains (.column table name) :=
          contains_twin (fun _ _ => rfl) earlier
        simp only [columnPieces, held]
        rw [any_twin (fun _ _ => rfl) earlier]
        exact like.refl _
      | truth flag =>
        have held : before.contains (.truth flag) = before'.contains (.truth flag) :=
          contains_twin (fun _ _ => rfl) earlier
        simp only [constantPieces, held]
        exact like.refl _
      | null =>
        have held : before.contains .null = before'.contains .null := contains_twin (fun _ _ => rfl) earlier
        simp only [constantPieces, held]
        exact like.refl _

theorem Sql.SortTerm.Twin.written {first second : List SortTerm}
    (terms : List.Forall₂ (SortTerm.Twin like dialect) first second) :
    List.Forall₂ like.relates ((first.map (SortTerm.pieces dialect)).filter (!·.isEmpty))
      ((second.map (SortTerm.pieces dialect)).filter (!·.isEmpty)) := by
  induction terms with
  | nil => exact .nil
  | @cons term other _ _ head _ ih =>
    rw [List.map_cons, List.map_cons, List.filter_cons, List.filter_cons, head.empty]
    split
    · exact .cons head.pieces ih
    · exact ih

theorem Sql.clausePieces_twin {first second : Option Cond} : Option.Rel (Cond.Twin like dialect) first second →
    like.relates
      (match first with
        | none => []
        | some cond => .text " \nWHERE " :: cond.written dialect)
      (match second with
        | none => []
        | some cond => .text " \nWHERE " :: cond.written dialect) := by
  rintro (twins | _)
  · exact like.cons _ twins.written
  · exact like.refl _

theorem Sql.optionalClause_twin (opening : String) {first second : List (List Piece)}
    (each : List.Forall₂ like.relates first second) :
    like.relates (optionalClause opening first) (optionalClause opening second) := by
  cases each with
  | nil => exact like.refl _
  | cons head tail => exact like.cons _ (like.separated _ (.cons head tail))

/-- Twin statements are written alike. -/
theorem Sql.Select.Twin.pieces {first second : Select} (twins : Select.Twin like dialect first second) (inner : Bool) :
    like.relates (first.pieces dialect inner) (second.pieces dialect inner) := by
  obtain ⟨distinct, before, source, joins, base, groups, havingOver, order, offset, limit⟩ := first
  obtain ⟨_, after, _, _, other, _, _, order', _, _⟩ := second
  obtain ⟨rfl, rfl, rfl, rfl, rfl, rfl, rfl, items, filter, sorts⟩ := twins
  have head : like.relates
      (.text ("SELECT " ++ (if distinct then "DISTINCT " else "")) ::
        separated ", " (itemPieces dialect inner (source.any Source.isDerived) [] before))
      (.text ("SELECT " ++ (if distinct then "DISTINCT " else "")) ::
        separated ", " (itemPieces dialect inner (source.any Source.isDerived) [] after)) :=
    like.cons _ (like.separated _ (itemPieces_twin items .nil))
  have empty : before.isEmpty = after.isEmpty := by cases items <;> rfl
  rw [Select.pieces.eq_def, Select.pieces.eq_def]
  dsimp only
  rw [empty]
  -- Source, groups and window are the same in both, and stand between the parts that are twins.
  refine like.append ?_ (like.refl _)
  refine like.append ?_ (optionalClause_twin _ (SortTerm.Twin.written sorts))
  refine like.append ?_ (like.refl _)
  refine like.append ?_ (like.refl _)
  refine like.append ?_ (clausePieces_twin filter)
  exact like.append head (like.refl _)

end Written

/-- The counts of statements that are written alike inside another one are written alike. -/
theorem Sql.Select.counting_pieces {first second : Select}
    (alike : like.relates (first.pieces dialect true) (second.pieces dialect true)) (inner : Bool) :
    like.relates (first.counting.pieces dialect inner) (second.counting.pieces dialect inner) := by
  have written (select : Select) : select.counting.pieces dialect inner =
      [.text "SELECT ", .text "count(*) AS ", .numbered "count", .text " \nFROM ", .text "("] ++
        (select.pieces dialect true ++ [.text (")" ++ dialect.aliasWord ++ dialect.bareName "count_row_table")]) := by
    simp [Select.counting, Select.empty, Select.pieces, Source.pieces, Select.listPieces, itemPieces, separated,
      joinedPieces, optionalClause, windowPieces]
  rw [written, written]
  exact like.append (like.refl _) (like.append alike (like.refl _))

/-- Queries that two runs came to from one: they differ in twin conditions, select list entries and sort terms only. -/
structure Query.Twin (like : Likeness) (start first second : Query) : Prop where
  base : first.base = start.base ∧ second.base = start.base
  adapter : first.adapter = start.adapter ∧ second.adapter = start.adapter
  root : first.root = second.root
  joins : first.joins = second.joins
  joined : first.joined = second.joined
  offset : first.offset = second.offset
  limit : first.limit = second.limit
  store : Store.Twin like start.dialect first.store second.store
  items : List.Forall₂ (Option.Rel (Item.Twin like start.dialect)) first.items second.items
  sorts : List.Forall₂ (SortTerm.Twin like start.dialect) first.sorts second.sorts

namespace Query

variable {start first second : Query}

theorem Twin.refl (query : Query) : Query.Twin like query query query where
  base := ⟨rfl, rfl⟩
  adapter := ⟨rfl, rfl⟩
  root := rfl
  joins := rfl
  joined := rfl
  offset := rfl
  limit := rfl
  store := .refl _
  items := by
    refine List.forall₂_same.mpr fun item _ => ?_
    cases item with
    | none => exact .none
    | some item => exact .some (.same item)
  sorts := List.forall₂_same.mpr fun term _ => .refl term

theorem Twin.dialects (twins : Query.Twin like start first second) :
    first.dialect = start.dialect ∧ second.dialect = start.dialect := by
  rw [Query.dialect, Query.dialect, Query.dialect, twins.adapter.1, twins.adapter.2]
  exact ⟨rfl, rfl⟩

theorem Twin.mainTables (twins : Query.Twin like start first second) :
    first.mainTable? = start.mainTable? ∧ second.mainTable? = start.mainTable? := by
  rw [Query.mainTable?, Query.mainTable?, Query.mainTable?, twins.base.1, twins.base.2]
  exact ⟨rfl, rfl⟩

/-- Queries that are twins come to statements that are twins, or fail in the same way. -/
theorem Twin.select (twins : Query.Twin like start first second) :
    Except.Rel (Select.Twin like start.dialect) first.select second.select := by
  have items : Except.Rel (List.Forall₂ (Item.Twin like start.dialect))
      (first.items.mapM fun item => item.elim (.error Error.badOperand) .ok)
      (second.items.mapM fun item => item.elim (.error Error.badOperand) .ok) := by
    refine Except.Rel.mapM twins.items ?_
    rintro _ _ (item | _)
    · exact .ok item
    · exact .error _
  have condition : Except.Rel (Option.Rel (Cond.Twin like start.dialect)) first.condition second.condition := by
    rw [condition, condition, twins.root, twins.base.1, twins.base.2]
    refine (twins.store.clause second.root).bind fun _ _ clauses => .ok (Clause.Twin.filter ?_ clauses)
    cases start.base.filter with
    | none => exact .none
    | some condition => exact .some (.refl condition)
  rw [Query.select, Query.select, twins.base.1, twins.base.2, twins.joins]
  cases (!second.joins.isEmpty && start.base.source.isNone) with
  | true => exact .error _
  | false =>
    refine items.bind fun entries entries' listed => ?_
    refine condition.bind fun filter filter' filtered => ?_
    rw [twins.offset, twins.limit]
    refine (Except.Rel.refl (fun _ => rfl) (rowNumber second.offset)).bind ?_
    rintro offset _ rfl
    refine (Except.Rel.refl (fun _ => rfl) (rowNumber second.limit)).bind ?_
    rintro limit _ rfl
    refine .ok ?_
    have own : List.Forall₂ (Item.Twin like start.dialect) start.base.items start.base.items :=
      List.forall₂_same.mpr fun item _ => .same item
    have terms : List.Forall₂ (SortTerm.Twin like start.dialect) start.base.sorts start.base.sorts :=
      List.forall₂_same.mpr fun term _ => .refl term
    exact ⟨rfl, rfl, rfl, rfl, rfl, rfl, rfl, List.rel_append own listed, filtered, List.rel_append terms twins.sorts⟩

end Query

end DataGrid
