import DataGrid.Proofs.PredicateTree

/-! The tree that a group of the store stands for. A group has one tree at most, and the groups that the
tree is made of are named by a region of the store, so that changes elsewhere leave it as it is. Reading a
group is reading its tree, unless the tree is too deep or holds a truth value in a group of its own. -/

namespace DataGrid

open Sql

namespace Store

mutual

/-- The group holds the forest, and all groups that it is made of lie in the region. -/
inductive Unfolds (store : Store) (region : GroupId → Prop) : GroupId → Forest → Prop where
  | intro {id forest} (inside : region id) (entries : Shows store region (store.entries id) forest) :
      Unfolds store region id forest

inductive Shows (store : Store) (region : GroupId → Prop) : List (Junction × Entry) → Forest → Prop where
  | nil : Shows store region [] []
  | cond (junction : Junction) (condition : Cond) {entries forest} (rest : Shows store region entries forest) :
      Shows store region ((junction, .cond condition) :: entries) ((junction, .cond condition) :: forest)
  | settled (junction : Junction) (flag : Bool) {entries forest} (rest : Shows store region entries forest) :
      Shows store region ((junction, .settled flag) :: entries) ((junction, .settled flag) :: forest)
  | group (junction : Junction) {id inner entries forest} (held : Unfolds store region id inner)
      (rest : Shows store region entries forest) :
      Shows store region ((junction, .group id) :: entries) ((junction, .group inner) :: forest)

end

def size (store : Store) : Nat := store.groups.length

/-- Every group that is nested in another one is in the store. -/
def Closed (store : Store) : Prop :=
  ∀ id junction (inner : Nat), (junction, Entry.group inner) ∈ store.entries id → inner < store.size

variable {store after : Store} {region wider : GroupId → Prop}

theorem entries_eq_nil {id : Nat} (outside : store.size ≤ id) : store.entries id = [] := by
  rw [entries, List.getD_eq_getElem?_getD, List.getElem?_eq_none outside, Option.getD_none]

theorem Shows.append {first second : List (Junction × Entry)} {left right : Forest}
    (head : Shows store region first left) (tail : Shows store region second right) :
    Shows store region (first ++ second) (left ++ right) := by
  match head with
  | .nil => exact tail
  | .cond junction condition rest => exact .cond junction condition (rest.append tail)
  | .settled junction flag rest => exact .settled junction flag (rest.append tail)
  | .group junction held rest => exact .group junction held (rest.append tail)

mutual

theorem Unfolds.unique {id : GroupId} {one other : Forest} (first : Unfolds store region id one)
    (second : Unfolds store wider id other) : one = other := by
  match first, second with
  | .intro _ entries, .intro _ same => exact entries.unique same
termination_by structural first

theorem Shows.unique {entries : List (Junction × Entry)} {one other : Forest}
    (first : Shows store region entries one) (second : Shows store wider entries other) : one = other := by
  match first, second with
  | .nil, .nil => rfl
  | .cond junction condition rest, .cond _ _ same => rw [rest.unique same]
  | .settled junction flag rest, .settled _ _ same => rw [rest.unique same]
  | .group junction held rest, .group _ inner same => rw [held.unique inner, rest.unique same]
termination_by structural first

end

mutual

theorem Unfolds.transfer (kept : ∀ id, region id → after.entries id = store.entries id ∧ wider id)
    {id : GroupId} {forest : Forest} (unfolds : Unfolds store region id forest) : Unfolds after wider id forest := by
  match unfolds with
  | .intro inside entries =>
    refine .intro (kept id inside).2 ?_
    rw [(kept id inside).1]
    exact Shows.transfer kept entries
termination_by structural unfolds

theorem Shows.transfer (kept : ∀ id, region id → after.entries id = store.entries id ∧ wider id)
    {entries : List (Junction × Entry)} {forest : Forest} (shows' : Shows store region entries forest) :
    Shows after wider entries forest := by
  match shows' with
  | .nil => exact .nil
  | .cond junction condition rest => exact .cond junction condition (Shows.transfer kept rest)
  | .settled junction flag rest => exact .settled junction flag (Shows.transfer kept rest)
  | .group junction held rest => exact .group junction (Unfolds.transfer kept held) (Shows.transfer kept rest)
termination_by structural shows'

end

mutual

/-- A group that is deeper than a tree is no part of it. -/
theorem Unfolds.avoid {target : GroupId} {big : Forest} (deep : Unfolds store wider target big)
    {id : GroupId} {forest : Forest} (unfolds : Unfolds store region id forest)
    (lower : forest.height < big.height) :
    Unfolds store (fun other => region other ∧ other ≠ target) id forest := by
  match unfolds with
  | .intro inside entries =>
    refine .intro ⟨inside, ?_⟩ (Shows.avoid deep entries (Nat.le_of_lt lower))
    -- The target has one tree, and that is too high to be this one.
    rintro rfl
    rw [Unfolds.unique (Unfolds.intro inside entries) deep] at lower
    exact Nat.lt_irrefl _ lower
termination_by structural unfolds

theorem Shows.avoid {target : GroupId} {big : Forest} (deep : Unfolds store wider target big)
    {entries : List (Junction × Entry)} {forest : Forest} (shows' : Shows store region entries forest)
    (lower : forest.height ≤ big.height) :
    Shows store (fun other => region other ∧ other ≠ target) entries forest := by
  match shows' with
  | .nil => exact .nil
  | .cond junction condition rest =>
    rw [Forest.height] at lower
    exact .cond junction condition (Shows.avoid deep rest (by omega))
  | .settled junction flag rest =>
    rw [Forest.height] at lower
    exact .settled junction flag (Shows.avoid deep rest (by omega))
  | .group junction held rest =>
    rw [Forest.height, PredicateTree.height] at lower
    exact .group junction (Unfolds.avoid deep held (by omega)) (Shows.avoid deep rest (by omega))
termination_by structural shows'

end

theorem Unfolds.apart {id : GroupId} {forest : Forest} (unfolds : Unfolds store region id forest) :
    Shows store (fun other => region other ∧ other ≠ id) (store.entries id) forest := by
  obtain ⟨inside, entries⟩ := unfolds
  exact Shows.avoid (.intro inside entries) entries (Nat.le_refl _)

mutual

theorem Unfolds.stored (closed : store.Closed) {id : GroupId} {forest : Forest}
    (unfolds : Unfolds store region id forest) (inside : id < store.size) :
    Unfolds store (fun other : Nat => region other ∧ other < store.size) id forest := by
  match unfolds with
  | .intro held entries => exact .intro ⟨held, inside⟩ (Shows.stored closed entries (closed id))
termination_by structural unfolds

theorem Shows.stored (closed : store.Closed) {entries : List (Junction × Entry)} {forest : Forest}
    (shows' : Shows store region entries forest)
    (inside : ∀ junction inner, (junction, Entry.group inner) ∈ entries → inner < store.size) :
    Shows store (fun other : Nat => region other ∧ other < store.size) entries forest := by
  match shows' with
  | .nil => exact .nil
  | .cond junction condition rest =>
    exact .cond junction condition (Shows.stored closed rest (fun _ _ member => inside _ _ (.tail _ member)))
  | .settled junction flag rest =>
    exact .settled junction flag (Shows.stored closed rest (fun _ _ member => inside _ _ (.tail _ member)))
  | .group junction held rest =>
    exact .group junction (Unfolds.stored closed held (inside junction _ (by simp)))
      (Shows.stored closed rest (fun _ _ member => inside _ _ (.tail _ member)))
termination_by structural shows'

end

end Store

end DataGrid
