import DataGrid.Proofs.JoinedRows
import Mathlib.Data.List.Dedup
import Mathlib.Data.List.Perm.Subperm

/-! The rows that a statement returns over a database. Its joins put rows beside those of its source, its condition
keeps some of the scopes that come of it, and its groups, its select list and its window make the answer of these. -/

namespace DataGrid

open Sql

variable {Cell : Type}

/-- A database, with what stands behind the sources that are no tables, and the way in which it is asked. -/
structure World (Cell : Type) where
  contents : Contents Cell
  views : Source → List (List (Frame Cell))
  reader : Reader
  adapter : Adapter

/-- What an entry of a select list shows. -/
inductive Shown (Cell : Type) where
  | cell (content : Option Cell)
  | number (count : Nat)
  | constant (entry : Item)
  deriving DecidableEq

namespace Sql

def Item.expression? (adapter : Adapter) : Item → Option Expr
  | .column table name => some (.column table name)
  | .text sql => some (.literal sql)
  | .part table sql => some (.literal (adapter.dialect.bareName table ++ "." ++ sql))
  | .lowered inner => some (.lower inner)
  | .truth _ | .null | .rowMark | .rowCount => none

namespace Select

/-- Whether a statement makes one row of several. -/
def gathers (statement : Select) : Bool :=
  !statement.groups.isEmpty || statement.havingOver.isSome || statement.items.contains .rowCount

/-- Whether a group of so many rows is kept. -/
def keepsGroup (statement : Select) (count : Nat) : Bool :=
  statement.havingOver.all fun bound => decide (bound < (count : Int))

/-- The rows in the window of a statement. A limit below zero is none. -/
def inWindow {Row : Type} (statement : Select) (rows : List Row) : List Row :=
  let rest := rows.drop (statement.offset.getD 0).toNat
  match statement.limit with
  | some (.ofNat limit) => rest.take limit
  | _ => rest

/-- Two statements that arrange the same scopes in the same rows, but for what the rows show. -/
structure SameArrangement (one other : Select) : Prop where
  distinct : one.distinct = other.distinct
  groups : one.groups = other.groups
  havingOver : one.havingOver = other.havingOver
  counts : one.items.contains .rowCount = other.items.contains .rowCount
  offset : one.offset = other.offset
  limit : one.limit = other.limit

theorem SameArrangement.symm {one other : Select} (same : one.SameArrangement other) : other.SameArrangement one :=
  ⟨same.distinct.symm, same.groups.symm, same.havingOver.symm, same.counts.symm, same.offset.symm, same.limit.symm⟩

theorem SameArrangement.gathers {one other : Select} (same : one.SameArrangement other) :
    one.gathers = other.gathers := by
  rw [Select.gathers, Select.gathers, same.groups, same.havingOver, same.counts]

theorem SameArrangement.keepsGroup {one other : Select} (same : one.SameArrangement other) :
    one.keepsGroup = other.keepsGroup := by
  funext count
  rw [Select.keepsGroup, Select.keepsGroup, same.havingOver]

theorem keepsGroup_of_le {statement : Select} {few many : Nat} (le : few ≤ many)
    (kept : statement.keepsGroup few = true) : statement.keepsGroup many = true := by
  unfold keepsGroup at kept ⊢
  cases held : statement.havingOver with
  | none => rfl
  | some bound =>
    rw [held] at kept
    simp only [Option.all_some, decide_eq_true_eq] at kept ⊢
    omega

theorem inWindow_length {Row Other : Type} {one other : Select} (same : one.SameArrangement other) {rows : List Row}
    {others : List Other} (fewer : rows.length ≤ others.length) :
    (one.inWindow rows).length ≤ (other.inWindow others).length := by
  unfold inWindow
  rw [same.offset, same.limit]
  dsimp only
  split <;> simp only [List.length_take, List.length_drop] <;> omega

end Select

end Sql

/-- Of the values that stand in a list often enough there are no fewer in a longer list. -/
private theorem repeated_length {Key : Type} [DecidableEq Key] {keys more : List Key} (part : keys.Sublist more)
    {enough : Nat → Bool} (grows : ∀ few many, few ≤ many → enough few = true → enough many = true) :
    (keys.dedup.filter fun key => enough (keys.countP fun other => other = key)).length ≤
      (more.dedup.filter fun key => enough (more.countP fun other => other = key)).length := by
  refine (List.subperm_of_subset (keys.nodup_dedup.filter _) fun key member => ?_).length_le
  obtain ⟨among, frequent⟩ := List.mem_filter.mp member
  refine List.mem_filter.mpr ⟨List.mem_dedup.mpr (part.subset (List.mem_dedup.mp among)), ?_⟩
  exact grows _ _ part.countP_le frequent

namespace World

variable (world : World Cell)

def opened : Option Source → List (List (Frame Cell))
  | none => [[]]
  | some (.table name) => (world.contents.rows name.table).map fun row => [⟨name.shown, row⟩]
  | some source => world.views source

def joined (scope : List (Frame Cell)) (joins : List Join) : List (List (Frame Cell)) :=
  world.contents.joinScopes world.reader world.adapter scope joins

/-- The scopes that the `FROM` of a statement makes. Joins to a text stand beside it, each with the text once more. -/
def scopes (statement : Select) : List (List (Frame Cell)) :=
  match statement.source with
  | some (.text sql) =>
    statement.joins.foldl
      (fun scopes join => scopes.flatMap fun scope =>
        (world.views (.text sql)).flatMap fun again => (world.joined again [join]).map (· ++ scope))
      (world.views (.text sql))
  | source => (world.opened source).flatMap fun scope => world.joined scope statement.joins

def admits (filter : Option Cond) (scope : List (Frame Cell)) : Bool :=
  filter.all (world.contents.passes world.reader world.adapter scope)

/-- The scopes that the condition of a statement keeps. -/
def kept (statement : Select) : List (List (Frame Cell)) :=
  (world.scopes statement).filter (world.admits statement.filter)

def value (scope : List (Frame Cell)) (expression : Expr) : Option Cell :=
  world.contents.cell world.adapter scope expression

/-- What an entry of a select list shows for scopes that make one row. -/
def shown (group : List (List (Frame Cell))) (item : Item) : Shown Cell :=
  match item.expression? world.adapter with
  | some expression => .cell (group.head?.bind fun scope => world.value scope expression)
  | none => if item = .rowCount then .number group.length else .constant item

def key (statement : Select) (scope : List (Frame Cell)) : List (Option Cell) :=
  statement.groups.map (world.value scope)

def entries (statement : Select) (scope : List (Frame Cell)) : List (Shown Cell) :=
  statement.items.map (world.shown [scope])

variable [DecidableEq Cell]

/-- The scopes that make one row each. Without a `GROUP BY` all of them do, even if there are none. -/
def gathered (statement : Select) : List (List (List (Frame Cell))) :=
  if statement.gathers then
    let groups :=
      if statement.groups.isEmpty then [world.kept statement]
      else ((world.kept statement).map (world.key statement)).dedup.map fun key =>
        (world.kept statement).filter fun scope => world.key statement scope = key
    groups.filter fun group => statement.keepsGroup group.length
  else (world.kept statement).map fun scope => [scope]

/-- The rows that a statement returns, in no particular order. -/
def rows (statement : Select) : List (List (Shown Cell)) :=
  let rows := (world.gathered statement).map fun group => statement.items.map (world.shown group)
  statement.inWindow (if statement.distinct then rows.dedup else rows)

/-- How many rows a statement returns. -/
def size (statement : Select) : Nat := (world.rows statement).length

variable {world} {one other : Select}

private theorem gathered_length (same : one.SameArrangement other)
    (keys : ((world.kept one).map (world.key one)).Sublist ((world.kept other).map (world.key other))) :
    (world.gathered one).length ≤ (world.gathered other).length := by
  have fewer : (world.kept one).length ≤ (world.kept other).length := by simpa using keys.length_le
  rw [gathered, gathered, same.gathers, same.groups, same.keepsGroup]
  split
  · dsimp only
    split
    · have grows : other.keepsGroup (world.kept one).length = true →
          other.keepsGroup (world.kept other).length = true :=
        Select.keepsGroup_of_le fewer
      simp only [List.filter_singleton]
      cases few : other.keepsGroup (world.kept one).length with
      | false => exact Nat.zero_le _
      | true =>
        rw [grows few]
        exact Nat.le_refl 1
    · have count (statement : Select) (key : List (Option Cell)) :
          ((world.kept statement).filter fun scope => world.key statement scope = key).length =
            ((world.kept statement).map (world.key statement)).countP fun other => other = key := by
        rw [List.countP_map, List.countP_eq_length_filter]
        rfl
      simp only [List.filter_map, List.length_map, Function.comp_def, count]
      exact repeated_length keys fun _ _ => Select.keepsGroup_of_le
  · simpa using fewer

/-- A statement whose scopes are among those of another one, as far as both look at them, returns no more rows. -/
theorem size_le (same : one.SameArrangement other)
    (keys : ((world.kept one).map (world.key one)).Sublist ((world.kept other).map (world.key other)))
    (entries : one.distinct = true → one.gathers = false ∧
      ((world.kept one).map (world.entries one)).Sublist ((world.kept other).map (world.entries other))) :
    world.size one ≤ world.size other := by
  have fewer := gathered_length same keys
  rw [size, size, rows, rows, ← same.distinct]
  refine Select.inWindow_length same ?_
  cases distinct : one.distinct with
  | false => simpa using fewer
  | true =>
    obtain ⟨plain, among⟩ := entries distinct
    have single (statement : Select) (plain : statement.gathers = false) :
        (world.gathered statement).map (fun group => statement.items.map (world.shown group)) =
          (world.kept statement).map (world.entries statement) := by
      rw [gathered, plain]
      exact List.map_map
    rw [single one plain, single other (same.gathers ▸ plain)]
    exact (List.subperm_of_subset (List.nodup_dedup _)
      fun row member => List.mem_dedup.mpr (among.subset (List.mem_dedup.mp member))).length_le

theorem size_eq (same : one.SameArrangement other)
    (keys : (world.kept one).map (world.key one) = (world.kept other).map (world.key other))
    (entries : one.distinct = true → one.gathers = false ∧
      (world.kept one).map (world.entries one) = (world.kept other).map (world.entries other)) :
    world.size one = world.size other := by
  refine Nat.le_antisymm (size_le same (keys ▸ .refl _) ?_) (size_le same.symm (keys ▸ .refl _) ?_)
  · exact fun distinct => ⟨(entries distinct).1, (entries distinct).2 ▸ .refl _⟩
  · intro distinct
    obtain ⟨plain, equal⟩ := entries (same.distinct.trans distinct)
    exact ⟨same.gathers ▸ plain, equal ▸ .refl _⟩

end World

end DataGrid
