import DataGrid.Proofs.StoreWrites
import DataGrid.Proofs.TwinRuns

/-! Copies of groups. A copy stands for the tree of its group in groups of its own, which nest later ones only, and the
groups that were there before keep what they hold. Groups that stand for one tree are read alike, whatever else their
stores hold, so the copy comes to the same clause. -/

namespace DataGrid

open Sql

namespace Store

section Reading

variable {one other : Store} {region region' : GroupId → Prop}

theorem Unfolds.inside {id : GroupId} {forest : Forest} (unfolds : Unfolds one region id forest) : region id := by
  obtain ⟨inside, _⟩ := unfolds
  exact inside

/-- Entries that come to the same in two stores, with trees of less than some height below them. -/
inductive Alike (one other : Store) (region region' : GroupId → Prop) (bound : Nat) :
    Junction × Entry → Junction × Entry → Prop where
  | cond (junction : Junction) (condition : Cond) :
      Alike one other region region' bound (junction, .cond condition) (junction, .cond condition)
  | settled (junction : Junction) (flag : Bool) :
      Alike one other region region' bound (junction, .settled flag) (junction, .settled flag)
  | group (junction : Junction) {id id' : GroupId} {inner : Forest} (first : Unfolds one region id inner)
      (second : Unfolds other region' id' inner) (lower : inner.height < bound) :
      Alike one other region region' bound (junction, .group id) (junction, .group id')

theorem Shows.alike {entries entries' : List (Junction × Entry)} {forest : Forest} {bound : Nat}
    (first : Shows one region entries forest) (second : Shows other region' entries' forest)
    (low : forest.height ≤ bound) : List.Forall₂ (Alike one other region region' bound) entries entries' := by
  induction forest generalizing entries entries' with
  | nil =>
    cases first
    cases second
    exact .nil
  | cons head rest ih =>
    obtain ⟨junction, tree⟩ := head
    rw [Forest.height] at low
    cases first with
    | cond _ condition shown =>
      cases second with
      | cond _ _ shown' => exact .cons (.cond junction condition) (ih shown shown' (by omega))
    | settled _ flag shown =>
      cases second with
      | settled _ _ shown' => exact .cons (.settled junction flag) (ih shown shown' (by omega))
    | group _ held shown =>
      rw [PredicateTree.height] at low
      cases second with
      | group _ held' shown' => exact .cons (.group junction held held' (by omega)) (ih shown shown' (by omega))

theorem Unfolds.emptyWithin_same {id id' : GroupId} {forest : Forest} (first : Unfolds one region id forest)
    (second : Unfolds other region' id' forest) (depth : Nat) :
    one.emptyWithin depth id = other.emptyWithin depth id' := by
  induction depth generalizing id id' forest with
  | zero => rfl
  | succ depth ih =>
    obtain ⟨_, shown⟩ := first
    obtain ⟨_, shown'⟩ := second
    rw [Store.emptyWithin, Store.emptyWithin]
    refine Except.allM_eq (shown.alike shown' (Nat.le_refl _)) ?_
    intro entry entry' alike
    cases alike with
    | cond | settled => rfl
    | group _ held held' _ => exact ih held held'

/-- A tree that fits into two stores is read to the same depth in both, or to its end. -/
theorem depth_same {one other : Store} {height : Nat} (low : height ≤ one.size) (low' : height ≤ other.size)
    (steps : Nat) :
    one.depth steps = other.depth steps ∨ height ≤ one.depth steps ∧ height ≤ other.depth steps := by
  have size : one.groups.length = one.size := rfl
  have size' : other.groups.length = other.size := rfl
  rw [depth, depth, size, size']
  generalize stepLimit / steps = limit
  omega

variable (closed : one.Closed) (closed' : other.Closed)

include closed closed'

theorem Unfolds.isEmpty_same {id id' : Nat} {forest : Forest} (first : Unfolds one region id forest)
    (second : Unfolds other region' id' forest) (inside : id < one.size) (inside' : id' < other.size) :
    one.isEmpty id = other.isEmpty id' := by
  rw [Store.isEmpty, Store.isEmpty]
  rcases depth_same (first.height_le_size closed inside) (second.height_le_size closed' inside') 3 with
    same | ⟨enough, enough'⟩
  · rw [same]
    exact first.emptyWithin_same second _
  · have read {store : Store} {region : GroupId → Prop} {id : Nat} {depth : Nat} (held : Unfolds store region id forest)
        (enough : forest.height ≤ depth) : store.emptyWithin depth id = .ok forest.hollow := by
      obtain done | ⟨_, deep⟩ | ⟨_, impossible⟩ := held.emptyWithin depth
      · exact done
      · exact absurd deep (Nat.not_lt_of_le enough)
      · exact impossible.elim
    rw [read first enough, read second enough']

theorem Unfolds.clauseWithin_same (within : ∀ id : Nat, region id → id < one.size)
    (within' : ∀ id : Nat, region' id → id < other.size) {id id' depth depth' : Nat} {forest : Forest}
    (first : Unfolds one region id forest) (second : Unfolds other region' id' forest)
    (far : depth = depth' ∨ forest.height ≤ depth ∧ forest.height ≤ depth') :
    one.clauseWithin depth id = other.clauseWithin depth' id' := by
  induction depth generalizing id id' depth' forest with
  | zero =>
    have positive := forest.height_pos
    obtain rfl : depth' = 0 := by omega
    rfl
  | succ depth ih =>
    have positive := forest.height_pos
    obtain ⟨depth', rfl⟩ : ∃ less, depth' = less + 1 := ⟨depth' - 1, by omega⟩
    obtain ⟨_, shown⟩ := first
    obtain ⟨_, shown'⟩ := second
    rw [Store.clauseWithin, Store.clauseWithin]
    refine congrArg (· >>= _) (Except.mapM_eq (shown.alike shown' (Nat.le_refl _)) ?_)
    intro entry entry' alike
    cases alike with
    | cond | settled => rfl
    | group junction held held' lower =>
      -- Emptiness is read to a depth of its own, whatever is left for the clause.
      have empty := held.isEmpty_same closed closed' held' (within _ held.inside) (within' _ held'.inside)
      have read := @ih _ _ depth' _ held held' (by omega)
      dsimp only
      rw [entryClause, entryClause, empty, read]

/-- A group comes to the same clause as any other one that stands for the same tree. -/
theorem Unfolds.clause_same {id id' : Nat} {forest : Forest} (first : Unfolds one region id forest)
    (second : Unfolds other region' id' forest) (inside : id < one.size) (inside' : id' < other.size) :
    one.clause? id = other.clause? id' := by
  refine (first.stored closed inside).clauseWithin_same closed closed' ?_ ?_ (second.stored closed' inside') ?_
  · exact fun _ member => member.2
  · exact fun _ member => member.2
  · exact depth_same (first.height_le_size closed inside) (second.height_le_size closed' inside') 1

end Reading

section Copying

variable {store : Store} {region : GroupId → Prop}

/-- What copying into a group can come to: the trees are appended, or they are too deep. -/
def Appended (target : Nat) (now : Store) (result : Except Error Store) (forest : Forest) (deep : Prop) : Prop :=
  (∃ after, result = .ok after ∧ Appends target now after forest) ∨ (result = .error .tooDeep ∧ deep)

theorem Appends.appended {target : Nat} {now next : Store} {entry : Junction × PredicateTree} {forest : Forest}
    {result : Except Error Store} {deep deeper : Prop} (step : Appends target now next [entry]) (inside : target < now.size)
    (rest : Appended target next result forest deep) (weaker : deep → deeper) :
    Appended target now result (entry :: forest) deeper := by
  rcases rest with ⟨after, done, more⟩ | ⟨failed, reason⟩
  · exact .inl ⟨after, done, step.trans inside more⟩
  · exact .inr ⟨failed, weaker reason⟩

/-- The groups of a region hold in a later store what they held. -/
def Held (store now : Store) (region : GroupId → Prop) : Prop :=
  ∀ other : Nat, region other → now.entries other = store.entries other ∧ other < now.size

/-- A step on a group outside of the region leaves the region as it is. -/
theorem Appends.leaves {target : Nat} {now next : Store} {forest : Forest} (step : Appends target now next forest)
    (there : Held store now region) (apart : ¬region target) : Held store next region := by
  intro other member
  obtain ⟨same, low⟩ := there other member
  have different : other ≠ target := fun equal => apart (equal ▸ member)
  exact ⟨(step.kept other low different).trans same, Nat.lt_of_lt_of_le low step.size⟩

mutual

/-- A copy appends the tree of its group to a new one. It fails for a tree that is too deep alone. -/
theorem Unfolds.copyWithin {id : Nat} {forest : Forest} (unfolds : Unfolds store region id forest) (depth : Nat)
    (now : Store) (there : Held store now region) :
    (∃ after, Store.copyWithin depth now id = .ok (now.size, after) ∧ Appends now.size now.fresh.2 after forest) ∨
      (Store.copyWithin depth now id = .error .tooDeep ∧ depth < forest.height) := by
  match unfolds, depth with
  | .intro _ _, 0 => exact .inr ⟨rfl, forest.height_pos⟩
  | .intro inside entries, depth + 1 =>
    have there' : Held store now.fresh.2 region := by
      intro other member
      obtain ⟨same, low⟩ := there other member
      rw [entries_fresh, size_fresh]
      exact ⟨same, Nat.lt_succ_of_lt low⟩
    have low : now.size < now.fresh.2.size := by
      rw [size_fresh]
      exact Nat.lt_succ_self _
    have apart : ¬region now.size := fun member => Nat.lt_irrefl _ (there now.size member).2
    have copied := Shows.copyEntries entries depth now.fresh.2 low there' apart
    rw [← (there id inside).1] at copied
    have asked : Store.copyWithin (depth + 1) now id =
        (copyEntries (Store.copyWithin depth) now.size now.fresh.2 (now.entries id)).map (now.size, ·) := by
      rw [Store.copyWithin]
      rfl
    rw [asked]
    rcases copied with ⟨after, done, appends⟩ | ⟨failed, deep⟩
    · rw [done]
      exact .inl ⟨after, rfl, appends⟩
    · rw [failed]
      exact .inr ⟨rfl, deep⟩
termination_by structural unfolds

/-- Copying entries into a group appends their trees; the group is none of those that are copied. -/
theorem Shows.copyEntries {entries : List (Junction × Entry)} {forest : Forest} {target : Nat}
    (shown : Shows store region entries forest) (depth : Nat) (now : Store) (inside : target < now.size)
    (there : Held store now region) (apart : ¬region target) :
    Appended target now (copyEntries (Store.copyWithin depth) target now entries) forest
      (depth + 1 < forest.height) := by
  match shown with
  | .nil => exact .inl ⟨now, rfl, .refl target now⟩
  | .cond junction condition rest =>
    have step := Appends.cond inside junction condition
    have more := Shows.copyEntries rest depth _ (Nat.lt_of_lt_of_le inside step.size) (step.leaves there apart) apart
    refine step.appended inside more fun deep => ?_
    rw [Forest.height]
    omega
  | .settled junction flag rest =>
    have step := Appends.settled inside junction flag
    have more := Shows.copyEntries rest depth _ (Nat.lt_of_lt_of_le inside step.size) (step.leaves there apart) apart
    refine step.appended inside more fun deep => ?_
    rw [Forest.height]
    omega
  | .group junction held rest =>
    rw [Store.copyEntries, Forest.height, PredicateTree.height]
    rcases Unfolds.copyWithin held depth now there with ⟨grown, copied, filled⟩ | ⟨failed, deep⟩
    · rw [copied, Except.ok_bind]
      have step := Appends.scope inside junction filled
      have more := Shows.copyEntries rest depth _ (Nat.lt_of_lt_of_le inside step.size) (step.leaves there apart) apart
      exact step.appended inside more fun deep => by omega
    · rw [failed]
      exact .inr ⟨rfl, by omega⟩
termination_by structural shown

end

end Copying

section Copies

variable {before after store : Store}

/-- A copy is a new group. It and what is below it stand from some group on, where groups nest later ones only. -/
structure Copies (base : Nat) (before : Store) (duplicate : Nat) (after : Store) : Prop where
  first : duplicate = before.size
  larger : before.size < after.size
  writes : Writes (fun _ => False) (fun _ => False) before after
  ascending : before.AscendingFrom base → after.AscendingFrom base

theorem copyEntries_copies {copyGroup : Store → GroupId → Except Error (GroupId × Store)} {base target : Nat}
    (each : ∀ store id duplicate after, copyGroup store id = .ok (duplicate, after) → Copies base store duplicate after)
    {entries : List (Junction × Entry)} (inside : target < before.size)
    (copied : copyEntries copyGroup target before entries = .ok after) :
    Writes (· = target) (fun _ => False) before after ∧ (before.AscendingFrom base → after.AscendingFrom base) := by
  induction entries generalizing before with
  | nil =>
    cases copied
    exact ⟨.refl _, id⟩
  | cons head rest ih =>
    obtain ⟨junction, entry⟩ := head
    cases entry with
    | cond condition =>
      have step : Writes (· = target) (fun _ => False) before (before.add target junction (.cond condition)) :=
        .add junction rfl nofun
      obtain ⟨writes, ascending⟩ := ih (Nat.lt_of_lt_of_le inside step.size) copied
      exact ⟨step.followed writes, fun start => ascending (start.add junction nofun)⟩
    | settled flag =>
      have step : Writes (· = target) (fun _ => False) before (before.add target junction (.settled flag)) :=
        .add junction rfl nofun
      obtain ⟨writes, ascending⟩ := ih (Nat.lt_of_lt_of_le inside step.size) copied
      exact ⟨step.followed writes, fun start => ascending (start.add junction nofun)⟩
    | group inner =>
      obtain ⟨⟨duplicate, grown⟩, made, copied⟩ := Except.bind_ok copied
      obtain ⟨rfl, larger, writes, climbs⟩ := each _ inner duplicate grown made
      have opened : Writes (· = target) (fun _ => False) before grown := writes.weaken (fun _ => False.elim) fun _ => id
      have step := opened.nest junction (.inl rfl) (Nat.le_refl _) larger
      obtain ⟨later, ascending⟩ := ih (Nat.lt_of_lt_of_le inside step.size) copied
      refine ⟨step.followed later, fun start => ascending ((climbs start).add junction ?_)⟩
      rintro _ ⟨⟩
      exact inside

theorem copyWithin_copies {base depth : Nat} {id duplicate : GroupId}
    (copied : copyWithin depth before id = .ok (duplicate, after)) : Copies base before duplicate after := by
  induction depth generalizing before after id duplicate with
  | zero => cases copied
  | succ depth ih =>
    rw [copyWithin] at copied
    obtain ⟨grown, filled, same⟩ := Except.bind_ok copied
    cases same
    have low : before.size < before.fresh.2.size := by
      rw [size_fresh]
      exact Nat.lt_succ_self _
    obtain ⟨writes, climbs⟩ := copyEntries_copies (fun _ _ _ _ => ih) low filled
    refine ⟨rfl, Nat.lt_of_lt_of_le low writes.size, ?_, fun start => climbs start.fresh⟩
    refine (Writes.fresh before).trans writes ?_ fun _ => .inl
    rintro _ rfl
    exact .inr (Nat.le_refl _)

/-- No group is nested in itself when the old groups were not and the new ones nest later ones only. -/
theorem Writes.acyclic (writes : Writes (fun _ => False) (fun _ => False) before after) (closed : before.Closed)
    (ascending : after.AscendingFrom before.size) (acyclic : before.Acyclic) : after.Acyclic := by
  -- A path that starts at an old group stays among the old ones; from a new group on it only climbs.
  have edge {inner outer : Nat} (nests : after.Nests inner outer) (low : outer < before.size) :
      before.Nests inner outer ∧ inner < before.size := by
    obtain ⟨junction, member⟩ := nests
    rw [writes.kept outer low id] at member
    exact ⟨⟨junction, member⟩, closed outer junction inner member⟩
  have old {inner outer : Nat} (path : Relation.TransGen after.Nests inner outer) (low : outer < before.size) :
      Relation.TransGen before.Nests inner outer := by
    induction path with
    | single nests => exact .single (edge nests low).1
    | tail _ nests ih =>
      obtain ⟨held, low'⟩ := edge nests low
      exact (ih low').tail held
  intro id path
  rcases Nat.lt_or_ge id before.size with low | high
  · exact acyclic id (old path low)
  · exact Nat.lt_irrefl id (ascending.path path high)

/-- A store after a group was copied. The copy is the first new group; it stands for the tree of the group, in new
groups alone, and nothing that was there is changed. -/
structure Copied (before : Store) (id : Nat) (after : Store) : Prop where
  larger : before.size < after.size
  writes : Writes (fun _ => False) (fun _ => False) before after
  ascending : after.AscendingFrom before.size
  clause : after.clause? before.size = before.clause? id

/-- Copying a group fails only when it is nested deeper than the limit allows. -/
theorem copy_cases (closed : before.Closed) (acyclic : before.Acyclic) {id : Nat} (inside : id < before.size) :
    (∃ after, before.copy id = .ok (before.size, after) ∧ Copied before id after) ∨
      (before.copy id = .error .tooDeep ∧
        ∃ forest, Unfolds before (fun _ => True) id forest ∧ stepLimit / 2 < forest.height) := by
  obtain ⟨forest, unfolds⟩ := acyclic.unfolds closed id
  have stored := unfolds.stored closed inside
  have there : Held before before fun other : Nat => True ∧ other < before.size := fun _ member => ⟨rfl, member.2⟩
  rw [copy]
  rcases stored.copyWithin (before.depth 2) before there with ⟨after, copied, appends⟩ | ⟨failed, deep⟩
  · have copies : Copies before.size before before.size after := copyWithin_copies copied
    have none : before.AscendingFrom before.size := by
      intro group junction inner later member
      rw [entries_eq_nil later] at member
      cases member
    refine .inl ⟨after, copied, copies.larger, copies.writes, copies.ascending none, ?_⟩
    obtain ⟨entries, grown, shown⟩ := appends.grown
    rw [entries_fresh, entries_eq_nil (Nat.le_refl _), List.nil_append] at grown
    have held : Unfolds after (fun _ => True) before.size forest := by
      refine .intro trivial ?_
      rw [grown]
      exact shown.transfer fun _ _ => ⟨rfl, trivial⟩
    exact held.clause_same (copies.writes.closed closed) closed unfolds copies.larger inside
  · refine .inr ⟨failed, forest, unfolds, ?_⟩
    have low := unfolds.height_le_size closed inside
    have size : before.groups.length = before.size := rfl
    rw [depth, size] at deep
    omega

end Copies

end Store

end DataGrid
