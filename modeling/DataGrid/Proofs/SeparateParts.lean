import DataGrid.Proofs.WorkspaceCalls

/-! Parts of a workspace that have nothing to do with each other. A part is made of groups and handles; it stands apart
when its groups nest groups of its own alone and its handles share nothing with others. Calls that spare a part leave
it as it reads, and calls within it leave it apart, with all that they open. What was there before a copy or a clone
is one part, and what is new is another. -/

namespace DataGrid

open Sql

namespace Store

variable {store : Store} {region part : GroupId → Prop}

mutual

/-- The tree of a group lies in every region that its groups do not lead out of. -/
theorem Unfolds.confined (nests : ∀ (id : Nat) junction (inner : Nat), part id →
    (junction, Entry.group inner) ∈ store.entries id → part inner) {id : GroupId} {forest : Forest}
    (unfolds : Unfolds store region id forest) (inside : part id) : Unfolds store part id forest := by
  match unfolds with
  | .intro _ entries =>
    exact .intro inside (Shows.confined nests entries fun junction inner member => nests id junction inner inside member)
termination_by structural unfolds

theorem Shows.confined (nests : ∀ (id : Nat) junction (inner : Nat), part id →
    (junction, Entry.group inner) ∈ store.entries id → part inner) {entries : List (Junction × Entry)} {forest : Forest}
    (shown : Shows store region entries forest)
    (inside : ∀ junction inner, (junction, Entry.group inner) ∈ entries → part inner) :
    Shows store part entries forest := by
  match shown with
  | .nil => exact .nil
  | .cond junction condition rest =>
    exact .cond junction condition (Shows.confined nests rest fun _ _ member => inside _ _ (.tail _ member))
  | .settled junction flag rest =>
    exact .settled junction flag (Shows.confined nests rest fun _ _ member => inside _ _ (.tail _ member))
  | .group junction held rest =>
    exact .group junction (Unfolds.confined nests held (inside junction _ (by simp)))
      (Shows.confined nests rest fun _ _ member => inside _ _ (.tail _ member))
termination_by structural shown

end

end Store

/-- Queries that read alike: one statement is written for both, and both know the same tables as joined. -/
structure Query.Same (one other : Query) : Prop where
  base : other.base = one.base
  adapter : other.adapter = one.adapter
  lists : ∀ kind, other.list kind = one.list kind
  offset : other.offset = one.offset
  limit : other.limit = one.limit
  clause : other.store.clause? other.root = one.store.clause? one.root

theorem Query.Same.select {one other : Query} (same : one.Same other) : other.select = one.select := by
  have joins : other.joins = one.joins := same.lists .joins
  have items : other.items = one.items := same.lists .items
  have sorts : other.sorts = one.sorts := same.lists .sorts
  rw [Query.select, Query.select, Query.condition, Query.condition, same.base, joins, items, sorts, same.clause,
    same.offset, same.limit]

/-- Groups and handles of a workspace. -/
structure Part where
  groups : GroupId → Prop
  handles : Nat → Prop

namespace Part

open Workspace

/-- All that there is. -/
def all (workspace : Workspace) : Part := ⟨(· < workspace.store.size), (· < workspace.handles.length)⟩

/-- What there is only afterwards. -/
def fresh (before after : Workspace) : Part where
  groups id := before.store.size ≤ id ∧ id < after.store.size
  handles index := before.handles.length ≤ index ∧ index < after.handles.length

/-- A part with all that was opened. -/
def grown (part : Part) (before after : Workspace) : Part where
  groups id := part.groups id ∨ (fresh before after).groups id
  handles index := part.handles index ∨ (fresh before after).handles index

/-- A part with groups that nest its own groups alone, and handles that share no group or list with others. -/
structure Apart (part : Part) (workspace : Workspace) : Prop where
  groups : ∀ id, part.groups id → id < workspace.store.size
  handles : ∀ index, part.handles index → index < workspace.handles.length
  nests : ∀ (id : Nat) junction (inner : Nat), part.groups id →
    (junction, Entry.group inner) ∈ workspace.store.entries id → part.groups inner
  roots : ∀ (index : Nat) handle, workspace.handles[index]? = some handle →
    (part.groups handle.root ↔ part.handles index)
  places : ∀ (index : Nat) handle (index' : Nat) handle', workspace.handles[index]? = some handle →
    workspace.handles[index']? = some handle' → part.handles index → ¬part.handles index' →
      ∀ kind, handle.places kind ≠ handle'.places kind

/-- A part in which nothing was written. -/
structure Kept (part : Part) (before after : Workspace) : Prop where
  groups : ∀ id, part.groups id → after.store.entries id = before.store.entries id
  handles : ∀ (index : Nat) handle, part.handles index → before.handles[index]? = some handle →
    after.handles[index]? = some handle ∧ ∀ kind, after.list handle kind = before.list handle kind

/-- A part whose groups and queries read the same before and afterwards. -/
structure Reads (part : Part) (before after : Workspace) : Prop where
  groups : ∀ id, part.groups id → after.store.clause? id = before.store.clause? id
  handles : ∀ index, part.handles index → ∃ query query', before.query? index = some query ∧
    after.query? index = some query' ∧ query.Same query'

variable {part : Part} {before between after : Workspace}

theorem Kept.refl (part : Part) (workspace : Workspace) : part.Kept workspace workspace :=
  ⟨fun _ _ => rfl, fun _ _ _ found => ⟨found, fun _ => rfl⟩⟩

theorem Kept.trans (one : part.Kept before between) (other : part.Kept between after) : part.Kept before after := by
  refine ⟨fun id member => (other.groups id member).trans (one.groups id member), ?_⟩
  intro index handle member found
  obtain ⟨middle, lists⟩ := one.handles index handle member found
  obtain ⟨last, lists'⟩ := other.handles index handle member middle
  exact ⟨last, fun kind => (lists' kind).trans (lists kind)⟩

/-- What was not written to reads as it did, if no group was nested in itself. -/
theorem Kept.reads (kept : part.Kept before after) (apart : part.Apart before) (apart' : part.Apart after)
    (formed : before.Formed) (formed' : after.Formed) (acyclic : before.store.Acyclic) : part.Reads before after := by
  have groups (id : Nat) (member : part.groups id) : after.store.clause? id = before.store.clause? id := by
    obtain ⟨forest, unfolds⟩ := acyclic.unfolds formed.closed id
    have inside : id < before.store.size := apart.groups id member
    have stayed : Store.Unfolds after.store (fun _ => True) id forest :=
      (unfolds.confined apart.nests member).transfer fun other among => ⟨kept.groups other among, trivial⟩
    exact stayed.clause_same formed'.closed formed.closed unfolds (apart'.groups id member) inside
  refine ⟨groups, ?_⟩
  intro index member
  obtain ⟨handle, found⟩ : ∃ handle, before.handles[index]? = some handle :=
    ⟨_, List.getElem?_eq_getElem (apart.handles index member)⟩
  obtain ⟨found', lists⟩ := kept.handles index handle member found
  refine ⟨before.read handle, after.read handle, by rw [query?, found]; rfl, by rw [query?, found']; rfl, ?_⟩
  refine ⟨rfl, rfl, ?_, rfl, rfl, groups handle.root ((apart.roots index handle found).mpr member)⟩
  intro kind
  cases kind with
  | joins => exact lists .joins
  | joined => exact lists .joined
  | items => exact lists .items
  | sorts => exact lists .sorts

section Steps

variable {target link : GroupId → Prop} {worked : Nat → Prop} (effect : Effect target link worked before after)
  (formed : before.Formed)

include formed in
theorem all_apart : (all before).Apart before where
  groups _ := id
  handles _ := id
  nests id junction inner _ member := formed.closed id junction inner member
  roots index handle found := iff_of_true (formed.roots index handle found) (List.getElem?_eq_some_iff.mp found).1
  places _ _ _ _ _ found' _ outside := absurd (List.getElem?_eq_some_iff.mp found').1 outside

include effect formed

/-- A step that writes to other groups and handles leaves a part apart. -/
theorem Apart.spared (apart : part.Apart before) (targets : ∀ id, target id → ¬part.groups id) : part.Apart after where
  groups id member := Nat.lt_of_lt_of_le (apart.groups id member) effect.store.size
  handles index member := effect.present (apart.handles index member)
  nests id junction inner member nested := by
    rcases effect.store.nests id junction inner nested with old | ⟨written | opened, _⟩
    · exact apart.nests id junction inner member old
    · exact absurd member (targets id written)
    · exact absurd (apart.groups id member) (Nat.not_lt_of_le opened)
  roots index handle found := by
    obtain ⟨old, held, root, _⟩ | ⟨later, ⟨opened, _⟩, _⟩ := effect.handle_cases found
    · rw [root]
      exact apart.roots index old held
    · refine iff_of_false (fun member => ?_) fun member => ?_
      · exact Nat.not_lt_of_le opened (apart.groups _ member)
      · exact Nat.not_lt_of_le later (apart.handles index member)
  places index handle index' handle' found found' member outside kind := by
    obtain ⟨old, held, _, places⟩ | ⟨later, _⟩ := effect.handle_cases found
    · rw [places]
      obtain ⟨old', held', _, places'⟩ | ⟨_, _, opened⟩ := effect.handle_cases found'
      · rw [places']
        exact apart.places index old index' old' held held' member outside kind
      · exact Nat.ne_of_lt (Nat.lt_of_lt_of_le (formed.places index old held kind) (opened kind).1)
    · exact absurd (apart.handles index member) (Nat.not_lt_of_le later)

/-- A step that writes to other groups and handles leaves a part as it was. -/
theorem Apart.kept (apart : part.Apart before) (targets : ∀ id, target id → ¬part.groups id)
    (works : ∀ index, worked index → ¬part.handles index) : part.Kept before after where
  groups id member := effect.store.kept id (apart.groups id member) fun written => targets id written member
  handles index handle member found := by
    obtain ⟨offset, limit, found', window⟩ := effect.handles index handle found
    obtain ⟨rfl, rfl⟩ := window fun worked => works index worked member
    refine ⟨found', fun kind => ?_⟩
    have same := effect.lists kind _ (formed.places index handle found kind) fun index' handle' worked held =>
      (apart.places index handle index' handle' found held member (works index' worked) kind).symm
    rw [Workspace.list, Workspace.list, List.getD_eq_getElem?_getD, same, List.getD_eq_getElem?_getD]

/-- A part stays apart with all that was opened, unless a group of another part was nested. -/
theorem Apart.grown (apart : part.Apart before) (links : ∀ inner, link inner → part.groups inner) :
    (part.grown before after).Apart after where
  groups id member := by
    rcases member with held | ⟨_, inside⟩
    · exact Nat.lt_of_lt_of_le (apart.groups id held) effect.store.size
    · exact inside
  handles index member := by
    rcases member with held | ⟨_, inside⟩
    · exact effect.present (apart.handles index held)
    · exact inside
  nests id junction inner member nested := by
    rcases effect.store.nests id junction inner nested with old | ⟨_, linked | opened, inside⟩
    · rcases member with held | ⟨later, _⟩
      · exact .inl (apart.nests id junction inner held old)
      · rw [Store.entries_eq_nil later] at old
        cases old
    · exact .inl (links inner linked)
    · exact .inr ⟨opened, inside⟩
  roots index handle found := by
    have low := (List.getElem?_eq_some_iff.mp found).1
    obtain ⟨old, held, root, _⟩ | ⟨later, inside, _⟩ := effect.handle_cases found
    · have low' := (List.getElem?_eq_some_iff.mp held).1
      rw [root]
      refine or_congr (apart.roots index old held) (iff_of_false (fun opened => ?_) fun opened => ?_)
      · exact Nat.not_lt_of_le opened.1 (formed.roots index old held)
      · exact Nat.not_lt_of_le opened.1 low'
    · exact iff_of_true (.inr inside) (.inr ⟨later, low⟩)
  places index handle index' handle' found found' member outside kind := by
    obtain ⟨old', held', _, places'⟩ | ⟨later', _⟩ := effect.handle_cases found'
    · rw [places']
      obtain ⟨old, held, _, places⟩ | ⟨_, _, opened⟩ := effect.handle_cases found
      · have low := (List.getElem?_eq_some_iff.mp held).1
        have member' : part.handles index := member.resolve_right fun opened => Nat.not_lt_of_le opened.1 low
        rw [places]
        exact apart.places index old index' old' held held' member' (fun member => outside (.inl member)) kind
      · exact Nat.ne_of_gt (Nat.lt_of_lt_of_le (formed.places index' old' held' kind) (opened kind).1)
    · exact absurd (.inr ⟨later', (List.getElem?_eq_some_iff.mp found').1⟩) outside

/-- What a step opens is apart if it was handed no group to nest. -/
theorem fresh_apart (alone : ∀ inner, ¬link inner) : (fresh before after).Apart after := by
  have none : (⟨fun _ => False, fun _ => False⟩ : Part).Apart before :=
    ⟨nofun, nofun, nofun, fun _ _ _ => Iff.rfl, fun _ _ _ _ _ _ member => member.elim⟩
  have grown := none.grown effect formed fun inner linked => alone inner linked
  simpa only [Part.grown, false_or] using grown

end Steps

end Part

end DataGrid
