import DataGrid.Proofs.ScopeAgreement
import DataGrid.Proofs.StatementRows

/-! Joins that find one row at most. Put behind a statement that does not look at what they bring, such joins repeat
none of its rows: behind each scope that is kept stands one of the statement, once at most, and an outer join loses
none. -/

namespace DataGrid

open Sql

variable {Cell : Type}

namespace Sql.Select

/-- A statement with outer joins behind its own, and perhaps with more entries and another condition. -/
structure Widens (first second : Select) (added : List Join) : Prop where
  distinct : second.distinct = first.distinct
  source : second.source = first.source
  joins : second.joins = first.joins ++ added
  outer : ∀ join ∈ added, join.outer = true
  items : ∃ entries, second.items = first.items ++ entries ∧ .rowCount ∉ entries
  groups : second.groups = first.groups
  havingOver : second.havingOver = first.havingOver
  offset : second.offset = first.offset
  limit : second.limit = first.limit

theorem Widens.arrangement {first second : Select} {added : List Join} (widens : first.Widens second added) :
    second.SameArrangement first where
  distinct := widens.distinct
  groups := widens.groups
  havingOver := widens.havingOver
  counts := by
    obtain ⟨entries, same, uncounted⟩ := widens.items
    simp [same, uncounted]
  offset := widens.offset
  limit := widens.limit

end Sql.Select

namespace Contents

/-- Whether no value is met by a key in two rows of a table. -/
def UniqueKey (contents : Contents Cell) (adapter : Adapter) (table key : String) : Prop :=
  ∀ value, (contents.rows table).countP
    (fun row => contents.equal (contents.within adapter row (adapter.column key)) value == .yes) ≤ 1

theorem eq_of_equal {contents : Contents Cell}
    (same_eq : ∀ first second, contents.same first second = true → first = second) {first second : Option Cell}
    (met : contents.equal first second = .yes) : first = second := by
  cases first with
  | none => cases met
  | some own =>
    cases second with
    | none => cases met
    | some other =>
      refine congrArg some (same_eq own other ?_)
      cases same : contents.same own other with
      | true => rfl
      | false =>
        rw [equal, same] at met
        cases met

/-- Where only equal cells are the same, a key that stands in no two rows alike is unique. -/
theorem UniqueKey.of_nodup {contents : Contents Cell} {adapter : Adapter} {table key : String}
    (same_eq : ∀ first second, contents.same first second = true → first = second)
    (nodup : ((contents.rows table).map fun row => contents.within adapter row (adapter.column key)).Nodup) :
    contents.UniqueKey adapter table key := by
  classical
  intro value
  refine Nat.le_trans ?_ (List.nodup_iff_count_le_one.mp nodup value)
  rw [List.count, List.countP_map]
  refine List.countP_mono_left fun row _ met => ?_
  rw [Function.comp_apply, beq_iff_eq]
  exact eq_of_equal same_eq (beq_iff_eq.mp met)

theorem Agree.passes {contents : Contents Cell} {reader : Reader} {adapter : Adapter} {tables : List String}
    {first second : List (Frame Cell)} {cond : Cond} (agree : Agree adapter tables first second)
    (names : cond.NamesOnly adapter tables) :
    contents.passes reader adapter first cond = contents.passes reader adapter second cond := by
  have read (scope : List (Frame Cell)) : contents.passes reader adapter scope cond =
      (read? id (contents.valued reader adapter scope cond) == some .yes) := by
    rw [valued_eq, read?_map]
    rfl
  rw [read, read, agree.valued names]

end Contents

/-- Whether what a statement makes of its scopes goes by columns of some tables only. -/
structure Sql.Select.NamesOnly (statement : Select) (adapter : Adapter) (tables : List String) : Prop where
  filter : ∀ condition ∈ statement.filter, condition.NamesOnly adapter tables
  groups : ∀ expression ∈ statement.groups, expression.NamesOnly adapter tables
  items : statement.distinct = true → ∀ item ∈ statement.items, ∀ expression ∈ item.expression? adapter,
    expression.NamesOnly adapter tables

/-- Where one row comes of each, it is back at those for which the new one is picked. -/
private theorem filter_flatMap {Row Wide : Type} {rows : List Row} {extend : Row → List Wide} {back : Wide → Row}
    (each : ∀ row ∈ rows, ∃ wide, extend row = [wide] ∧ back wide = row) (picks : Wide → Bool) :
    ((rows.flatMap extend).filter picks).map back = rows.filter fun row => (extend row).any picks := by
  induction rows with
  | nil => rfl
  | cons row rest ih =>
    obtain ⟨⟨wide, single, same⟩, others⟩ := List.forall_mem_cons.mp each
    rw [List.flatMap_cons, List.filter_append, List.map_append, ih others, single]
    cases picked : picks wide with
    | false => simp [picked, single]
    | true => simp [picked, single, same]

namespace World

variable (world : World Cell)

/-- Whether each of some joins finds at most one row for what stands before it. -/
def Singly : (scope : List (Frame Cell)) → List Join → Prop
  | _, [] => True
  | scope, join :: rest =>
    (world.contents.matching world.reader world.adapter scope join).length ≤ 1 ∧
      ∀ row ∈ world.contents.joinRows world.reader world.adapter scope join, Singly (⟨join.name, row⟩ :: scope) rest

/-- Whether a statement makes the same of a scope and of one that has more rows. -/
structure Overlooks (statement : Select) (scope final : List (Frame Cell)) : Prop where
  filter : world.admits statement.filter final = world.admits statement.filter scope
  key : world.key statement final = world.key statement scope
  entries : statement.distinct = true → world.entries statement final = world.entries statement scope

/-- Whether joins find at most one row each, and rows that a statement does not look at. -/
structure Beside (statement : Select) (joins : List Join) : Prop where
  source : ∀ sql, statement.source = some (.text sql) → joins = []
  single : ∀ scope ∈ world.scopes statement, world.Singly scope joins
  unseen : ∀ scope ∈ world.scopes statement, ∀ final ∈ world.joined scope joins,
    world.Overlooks statement scope final

/-- Whether a join compares a unique key of its own table with a key of another one of some tables. -/
def Seeks (tables : List String) (join : Join) : Prop :=
  ∃ own other table extra,
    (join.on = Query.joinCondition world.adapter own other extra ∨
      join.on = Query.joinCondition world.adapter other own extra) ∧
    (∀ test ∈ extra, test.Direct world.reader) ∧
    (world.adapter.column own).NamesOnly world.adapter [join.name] ∧
    world.contents.UniqueKey world.adapter join.target.table own ∧
    (world.adapter.column other).NamesOnly world.adapter [table] ∧ table ∈ tables ∧ join.name ≠ table

variable {world} {first second : Select} {joins : List Join} {scope : List (Frame Cell)}

/-- Outer joins that find at most one row each make one scope, with one row of each in front. -/
theorem Singly.joined (single : world.Singly scope joins) (outer : ∀ join ∈ joins, join.outer = true) :
    ∃ frames, frames.length = joins.length ∧ world.joined scope joins = [frames ++ scope] := by
  induction joins generalizing scope with
  | nil => exact ⟨[], rfl, rfl⟩
  | cons join rest ih =>
    obtain ⟨kept, others⟩ := List.forall_mem_cons.mp outer
    obtain ⟨row, one⟩ : ∃ row, world.contents.joinRows world.reader world.adapter scope join = [row] := by
      have few := single.1
      unfold Contents.joinRows
      rw [kept]
      match found : world.contents.matching world.reader world.adapter scope join with
      | [] => exact ⟨nullRow, rfl⟩
      | [row] => exact ⟨row, rfl⟩
      | _ :: _ :: more =>
        rw [found] at few
        simp at few
    obtain ⟨frames, many, made⟩ := ih (single.2 row (one ▸ .head _)) others
    refine ⟨frames ++ [⟨join.name, row⟩], by simp [many], ?_⟩
    rw [World.joined, Contents.joinScopes, one, List.flatMap_singleton, ← World.joined, made]
    simp

/-- The scopes of a statement with more joins are made of those that it had before. -/
theorem scopes_widened (widens : first.Widens second joins)
    (source : ∀ sql, first.source = some (.text sql) → joins = []) :
    world.scopes second = (world.scopes first).flatMap fun scope => world.joined scope joins := by
  rw [scopes, scopes, widens.source, widens.joins]
  split
  · next sql same =>
    rw [source sql same, List.append_nil]
    exact (List.flatMap_singleton' _).symm
  · simp only [World.joined, Contents.joinScopes_append, List.flatMap_assoc]

section Beside
variable (widens : first.Widens second joins) (beside : world.Beside first joins)

include widens beside

private theorem each_joined :
    ∀ scope ∈ world.scopes first, ∃ final, world.joined scope joins = [final] ∧ final.drop joins.length = scope := by
  intro scope member
  obtain ⟨frames, many, made⟩ := (beside.single scope member).joined widens.outer
  exact ⟨_, made, List.drop_left' many⟩

/-- Behind each scope of the wider statement stands one of the statement, which does not tell them apart. -/
private theorem behind {final : List (Frame Cell)} (member : final ∈ world.scopes second) :
    world.Overlooks first (final.drop joins.length) final := by
  rw [scopes_widened widens beside.source] at member
  obtain ⟨scope, start, made⟩ := List.mem_flatMap.mp member
  obtain ⟨only, single, back⟩ := each_joined widens beside scope start
  have unseen := beside.unseen scope start final made
  rw [single, List.mem_singleton] at made
  rwa [made, back, ← made]

private theorem kept_widened : (world.kept second).map (List.drop joins.length) =
    (world.scopes first).filter fun scope => (world.joined scope joins).any (world.admits second.filter) := by
  rw [kept, scopes_widened widens beside.source]
  exact filter_flatMap (each_joined widens beside) _

/-- With a condition that is narrower, each row is kept at most as often as before. -/
theorem kept_sublist
    (narrows : ∀ scope, world.admits second.filter scope = true → world.admits first.filter scope = true) :
    ((world.kept second).map (List.drop joins.length)).Sublist (world.kept first) := by
  let picked (scope : List (Frame Cell)) : Bool := (world.joined scope joins).any (world.admits second.filter)
  have among : (world.scopes first).filter picked = (world.kept first).filter picked := by
    rw [kept, List.filter_filter]
    refine List.filter_congr fun scope member => ?_
    obtain ⟨final, single, _⟩ := each_joined widens beside scope member
    have made : final ∈ world.joined scope joins := single ▸ .head _
    have passes : picked scope = true → world.admits first.filter scope = true := by
      intro found
      simp only [picked, single, List.any_cons, List.any_nil, Bool.or_false] at found
      exact (beside.unseen scope member final made).filter ▸ narrows final found
    cases found : picked scope with
    | false => rfl
    | true => rw [passes found, Bool.and_self]
  rw [kept_widened widens beside, among]
  exact List.filter_sublist

/-- With the same condition, each row is kept as often as before. -/
theorem kept_same (filter : second.filter = first.filter) :
    (world.kept second).map (List.drop joins.length) = world.kept first := by
  rw [kept_widened widens beside, kept, filter]
  refine List.filter_congr fun scope member => ?_
  obtain ⟨final, single, _⟩ := each_joined widens beside scope member
  have made : final ∈ world.joined scope joins := single ▸ .head _
  rw [single, List.any_cons, List.any_nil, Bool.or_false, (beside.unseen scope member final made).filter]

private theorem keys_widened : (world.kept second).map (world.key second) =
    ((world.kept second).map (List.drop joins.length)).map (world.key first) := by
  rw [List.map_map]
  refine List.map_congr_left fun final member => ?_
  have same := (behind widens beside (List.mem_of_mem_filter member)).key
  rw [Function.comp_apply, ← same, key, key, widens.groups]

private theorem entries_widened (distinct : second.distinct = true) (items : second.items = first.items) :
    (world.kept second).map (world.entries second) =
      ((world.kept second).map (List.drop joins.length)).map (world.entries first) := by
  rw [List.map_map]
  refine List.map_congr_left fun final member => ?_
  have same := (behind widens beside (List.mem_of_mem_filter member)).entries (widens.distinct ▸ distinct)
  rw [Function.comp_apply, ← same, World.entries, World.entries, items]

variable [DecidableEq Cell]

/-- With a condition that is narrower, no more rows are returned. Where equal rows count once, what makes them equal has
to stay. -/
theorem size_narrowed
    (narrows : ∀ scope, world.admits second.filter scope = true → world.admits first.filter scope = true)
    (plain : first.distinct = true → first.gathers = false ∧ second.items = first.items) :
    world.size second ≤ world.size first := by
  have part := kept_sublist widens beside narrows
  refine size_le widens.arrangement ?_ fun distinct => ?_
  · rw [keys_widened widens beside]
    exact part.map _
  · obtain ⟨apart, items⟩ := plain (widens.distinct ▸ distinct)
    refine ⟨widens.arrangement.gathers.trans apart, ?_⟩
    rw [entries_widened widens beside distinct items]
    exact part.map _

/-- With the same condition, as many rows are returned. -/
theorem size_same (filter : second.filter = first.filter)
    (plain : first.distinct = true → first.gathers = false ∧ second.items = first.items) :
    world.size second = world.size first := by
  have whole := kept_same widens beside filter
  refine size_eq widens.arrangement ?_ fun distinct => ?_
  · rw [keys_widened widens beside, whole]
  · obtain ⟨apart, items⟩ := plain (widens.distinct ▸ distinct)
    refine ⟨widens.arrangement.gathers.trans apart, ?_⟩
    rw [entries_widened widens beside distinct items, whole]

end Beside

section Keys
variable {tables : List String} {join : Join}

theorem Seeks.mono (seen more : List String) (join : Join) (within : seen ⊆ more) (seeks : world.Seeks seen join) :
    world.Seeks more join := by
  obtain ⟨own, other, table, extra, on, direct, here, unique, there, known, apart⟩ := seeks
  exact ⟨own, other, table, extra, on, direct, here, unique, there, within known, apart⟩

theorem Seeks.matching (separates : world.adapter.dialect.Separates) (seeks : world.Seeks tables join)
    (shown : ∀ table ∈ tables, table ∈ scope.map Frame.table) :
    (world.contents.matching world.reader world.adapter scope join).length ≤ 1 := by
  obtain ⟨own, other, table, extra, on, direct, ⟨_, here, owner⟩, unique, there, known, apart⟩ := seeks
  obtain rfl := List.mem_singleton.mp here
  refine Nat.le_trans ?_ (unique (world.value scope (world.adapter.column other)))
  rw [Contents.matching, ← List.countP_eq_length_filter]
  refine List.countP_mono_left fun row _ passes => ?_
  have one : world.contents.cell world.adapter (⟨join.name, row⟩ :: scope) (world.adapter.column own) =
      world.contents.within world.adapter row (world.adapter.column own) :=
    Contents.cell_owned owner Contents.rowOf?_head
  have agree : Contents.Agree world.adapter [table] ([⟨join.name, row⟩] ++ scope) scope := by
    refine Contents.agree_behind separates (List.forall_mem_singleton.mpr (shown table known)) ?_
    exact List.forall_mem_singleton.mpr fun same => apart (List.mem_singleton.mp same)
  have two : world.contents.cell world.adapter (⟨join.name, row⟩ :: scope) (world.adapter.column other) =
      world.value scope (world.adapter.column other) := agree.cell there
  rw [beq_iff_eq, ← one, ← two]
  rcases on with on | on <;> rw [on, Contents.joinCondition_passes direct] at passes
  · exact passes.1
  · exact Contents.equal_comm .. ▸ passes.1

theorem singly_of_keys (separates : world.adapter.dialect.Separates) (seek : InTurn world.Seeks tables joins)
    (shown : ∀ table ∈ tables, table ∈ scope.map Frame.table) : world.Singly scope joins := by
  induction joins generalizing scope tables with
  | nil => trivial
  | cons join rest ih =>
    refine ⟨seek.head.matching separates shown, fun row _ => ih seek.tail ?_⟩
    refine List.forall_mem_append.mpr ⟨fun table member => .tail _ (shown table member), ?_⟩
    exact List.forall_mem_singleton.mpr (.head _)

/-- Joins by keys that are unique in their tables find one row at most each, and a statement that names its own tables
only does not look at what others bring. -/
theorem beside_of_keys {main : TableName} (separates : world.adapter.dialect.Separates)
    (source : first.source = some (.table main)) (names : first.NamesOnly world.adapter first.tables)
    (seek : InTurn world.Seeks first.tables joins) (apart : ∀ join ∈ joins, join.name ∉ first.tables) :
    world.Beside first joins := by
  have shown {scope : List (Frame Cell)} (start : scope ∈ world.scopes first) :
      ∀ table ∈ first.tables, table ∈ scope.map Frame.table := by
    rw [scopes, source] at start
    obtain ⟨alone, opened, made⟩ := List.mem_flatMap.mp start
    obtain ⟨row, _, rfl⟩ := List.mem_map.mp opened
    obtain ⟨frames, rfl, named⟩ := Contents.joinScopes_tables made
    intro table member
    rw [Select.tables, source] at member
    rw [List.map_append, named]
    rcases List.mem_append.mp member with own | joined
    · exact List.mem_append_right _ own
    · exact List.mem_append_left _ (List.mem_reverse.mpr joined)
  have plain : ∀ sql, first.source = some (.text sql) → joins = [] := by
    intro sql text
    cases source.symm.trans text
  refine ⟨plain, fun scope start => singly_of_keys separates seek (shown start), fun scope start final made => ?_⟩
  obtain ⟨frames, rfl, named⟩ := Contents.joinScopes_tables made
  have others : ∀ frame ∈ frames, frame.table ∉ first.tables := by
    intro frame member
    have added : frame.table ∈ joins.map Join.name := by
      rw [← List.mem_reverse, ← named]
      exact List.mem_map_of_mem member
    obtain ⟨join, among, same⟩ := List.mem_map.mp added
    exact same ▸ apart join among
  have agree := Contents.agree_behind separates (shown start) others
  constructor
  · cases filter : first.filter with
    | none => rfl
    | some condition => exact agree.passes (names.filter condition filter)
  · exact List.map_congr_left fun expression member => agree.cell (names.groups expression member)
  · intro distinct
    refine List.map_congr_left fun item member => ?_
    rw [World.shown, World.shown]
    cases found : item.expression? world.adapter with
    | none => rfl
    | some expression =>
      exact congrArg Shown.cell (agree.cell (names.items distinct item member expression found))

end Keys

section Twice
variable {base kept final : Select}

/-- Whether the joins between three statements find at most one row each, which the earlier ones do not look at, and the
rows of the base are told apart by the same entries throughout. -/
structure JoinsOnce (world : World Cell) (base kept final : Select) : Prop where
  searched : world.Beside base (kept.joins.drop base.joins.length)
  ordered : world.Beside kept (final.joins.drop kept.joins.length)
  distinct : base.distinct = true → base.gathers = false ∧ final.items = base.items

/-- Whether each row of a base is in the last of three statements at most as often, the second one returns no more rows
than the base, and the last one as many as the second. -/
structure RepeatsNone (world : World Cell) [DecidableEq Cell] (base kept final : Select) : Prop where
  rows : ((world.kept final).map (List.drop (final.joins.length - base.joins.length))).Sublist (world.kept base)
  filtered : world.size kept ≤ world.size base
  ordered : world.size final = world.size kept

theorem JoinsOnce.repeatsNone [DecidableEq Cell] {added later : List Join} (once : world.JoinsOnce base kept final)
    (search : base.Widens kept added) (order : kept.Widens final later) (filter : final.filter = kept.filter)
    (narrows : ∀ scope, world.admits kept.filter scope = true → world.admits base.filter scope = true) :
    world.RepeatsNone base kept final := by
  have beside := once.searched
  have behind := once.ordered
  rw [search.joins, List.drop_left] at beside
  rw [order.joins, List.drop_left] at behind
  obtain ⟨entries, listed, _⟩ := search.items
  obtain ⟨more, listed', _⟩ := order.items
  -- Entries are only added, so those in between are the same when those at the end are.
  have plain : base.distinct = true → base.gathers = false ∧ kept.items = base.items ∧ final.items = kept.items := by
    intro distinct
    obtain ⟨apart, same⟩ := once.distinct distinct
    rw [listed', listed, List.append_assoc, List.append_right_eq_self, List.append_eq_nil_iff] at same
    obtain ⟨rfl, rfl⟩ := same
    exact ⟨apart, by rw [listed, List.append_nil], by rw [listed', List.append_nil]⟩
  refine ⟨?_, ?_, ?_⟩
  · have length : final.joins.length - base.joins.length = later.length + added.length := by
      rw [order.joins, search.joins]
      simp only [List.length_append]
      omega
    have back : (world.kept final).map (List.drop (later.length + added.length)) =
        ((world.kept final).map (List.drop later.length)).map (List.drop added.length) := by
      rw [List.map_map]
      exact List.map_congr_left fun scope _ => List.drop_drop.symm
    rw [length, back, kept_same order behind filter]
    exact kept_sublist search beside narrows
  · exact size_narrowed search beside narrows fun distinct => ⟨(plain distinct).1, (plain distinct).2.1⟩
  · refine size_same order behind filter fun distinct => ?_
    obtain ⟨apart, _, same⟩ := plain (search.distinct ▸ distinct)
    exact ⟨search.arrangement.gathers.trans apart, same⟩

theorem repeatsNone_refl [DecidableEq Cell] (world : World Cell) (base : Select) : world.RepeatsNone base base base :=
  ⟨by rw [Nat.sub_self]; exact (List.map_id _).symm ▸ .refl _, Nat.le_refl _, rfl⟩

end Twice

end World

end DataGrid
