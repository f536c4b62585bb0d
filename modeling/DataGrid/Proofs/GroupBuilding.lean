import Mathlib.Data.Fintype.EquivFin
import Mathlib.Logic.Relation
import DataGrid.Proofs.GroupClause
import DataGrid.Proofs.MethodConditions
import DataGrid.Proofs.StoreGrowth

/-! Groups built by calls: where no group is nested in itself, each has a tree, and the SQL of its clause
reads as the reference fold of the tree. Only a tree that is nested too deep has no clause. -/

namespace DataGrid

open Sql

namespace Store

def Nests (store : Store) (inner outer : GroupId) : Prop :=
  ∃ junction, (junction, Entry.group inner) ∈ store.entries outer

/-- No group is nested in itself, directly or through others. -/
def Acyclic (store : Store) : Prop := ∀ id, ¬ Relation.TransGen store.Nests id id

def Holds (store : Store) (holds : Cond → Prop) : Prop :=
  ∀ id, ∀ entry ∈ store.entries id,
    match entry.2 with
    | .cond condition => holds condition
    | .settled _ => False
    | .group _ => True

variable {store : Store} {region : GroupId → Prop} {holds : Cond → Prop}

theorem Acyclic.unfolds (acyclic : store.Acyclic) (closed : store.Closed) (id : GroupId) :
    ∃ forest, Unfolds store (fun _ => True) id forest := by
  let below (inner outer : Fin store.size) : Prop := Relation.TransGen store.Nests inner.val outer.val
  have : IsTrans (Fin store.size) below := ⟨fun _ _ _ first second => first.trans second⟩
  have : Std.Irrefl below := ⟨fun group => acyclic group.val⟩
  have founded : WellFounded below := Finite.wellFounded_of_trans_of_irrefl below
  have inside (group : Fin store.size) : ∃ forest, Unfolds store (fun _ => True) group.val forest := by
    induction group using founded.induction with
    | _ group ih =>
      obtain ⟨forest, shown⟩ := shows_of_groups fun junction inner member =>
        ih ⟨inner, closed group.val junction inner member⟩ (.single ⟨junction, member⟩)
      exact ⟨forest, .intro trivial shown⟩
  rcases Nat.lt_or_ge id store.size with held | outside
  · exact inside ⟨id, held⟩
  · refine ⟨[], .intro trivial ?_⟩
    rw [entries_eq_nil outside]
    exact .nil

private theorem Shows.height_le {entries : List (Junction × Entry)} {forest : Forest} {bound : Nat}
    (each : ∀ id inner, Unfolds store region id inner → Forest.height inner ≤ bound)
    (shown : Shows store region entries forest) : forest.height ≤ bound + 1 := by
  cases shown with
  | nil => exact Nat.succ_le_succ (Nat.zero_le _)
  | cond junction condition rest | settled junction flag rest =>
    have others := Shows.height_le each rest
    rw [Forest.height, PredicateTree.height]
    omega
  | group junction held rest =>
    have first := each _ _ held
    have others := Shows.height_le each rest
    rw [Forest.height, PredicateTree.height]
    omega

theorem Unfolds.height_le {groups : Finset GroupId} {id : GroupId} {forest : Forest}
    (unfolds : Unfolds store (· ∈ groups) id forest) : forest.height ≤ groups.card := by
  induction size : groups.card generalizing groups id forest with
  | zero =>
    obtain ⟨inside, _⟩ := unfolds
    rw [Finset.card_eq_zero.mp size] at inside
    cases inside
  | succ bound ih =>
    have held : id ∈ groups := by
      obtain ⟨inside, _⟩ := unfolds
      exact inside
    have smaller : (groups.erase id).card = bound := by
      rw [Finset.card_erase_of_mem held, size, Nat.add_sub_cancel]
    -- A group is no part of what it holds, so its number is used up below it.
    refine Shows.height_le ?_ unfolds.apart
    intro other inner reached
    refine ih (reached.transfer fun group member => ⟨rfl, ?_⟩) smaller
    exact Finset.mem_erase.mpr ⟨member.2, member.1⟩

theorem Unfolds.height_le_size (closed : store.Closed) {id : Nat} {forest : Forest}
    (unfolds : Unfolds store region id forest) (inside : id < store.size) : forest.height ≤ store.size := by
  have stored : Unfolds store (· ∈ Finset.range store.size) id forest :=
    (unfolds.stored closed inside).transfer fun group member => ⟨rfl, Finset.mem_range.mpr member.2⟩
  simpa using stored.height_le

mutual

theorem Unfolds.each (kept : store.Holds holds) {id : GroupId} {forest : Forest}
    (unfolds : Unfolds store region id forest) : forest.Each holds := by
  match unfolds with
  | .intro _ entries => exact Shows.each kept entries (kept id)
termination_by structural unfolds

theorem Shows.each (kept : store.Holds holds) {entries : List (Junction × Entry)} {forest : Forest}
    (shown : Shows store region entries forest)
    (held : ∀ entry ∈ entries,
      match entry.2 with
      | .cond condition => holds condition
      | .settled _ => False
      | .group _ => True) : forest.Each holds := by
  match shown with
  | .nil => trivial
  | .cond junction condition rest =>
    exact ⟨held _ (.head _), Shows.each kept rest fun _ member => held _ (.tail _ member)⟩
  | .settled junction flag rest => exact (held _ (.head _)).elim
  | .group junction inner rest =>
    exact ⟨Unfolds.each kept inner, Shows.each kept rest fun _ member => held _ (.tail _ member)⟩
termination_by structural shown

end

theorem Holds.fresh (kept : store.Holds holds) : store.fresh.2.Holds holds := by
  intro id entry member
  rw [entries_fresh] at member
  exact kept id entry member

theorem Holds.add (kept : store.Holds holds) (id : Nat) (junction : Junction) {entry : Entry}
    (valid : match entry with
      | .cond condition => holds condition
      | .settled _ => False
      | .group _ => True) : (store.add id junction entry).Holds holds := by
  intro other held member
  rcases mem_add member with before | ⟨_, _, rfl⟩
  · exact kept other held before
  · exact valid

/-- From some group on, groups nest later ones only. -/
def AscendingFrom (store : Store) (base : Nat) : Prop :=
  ∀ (id : Nat) junction (inner : Nat), base ≤ id → (junction, Entry.group inner) ∈ store.entries id → id < inner

section Ascending

variable {base : Nat}

theorem AscendingFrom.fresh (ascending : store.AscendingFrom base) : store.fresh.2.AscendingFrom base := by
  intro id junction inner later member
  rw [entries_fresh] at member
  exact ascending id junction inner later member

theorem AscendingFrom.add {id : Nat} (ascending : store.AscendingFrom base) (junction : Junction) {entry : Entry}
    (younger : ∀ inner : Nat, entry = .group inner → id < inner) : (store.add id junction entry).AscendingFrom base := by
  intro other word inner later member
  rcases mem_add member with held | ⟨rfl, _, same⟩
  · exact ascending other word inner later held
  · cases same
    exact younger inner rfl

theorem AscendingFrom.path (ascending : store.AscendingFrom base) {inner outer : Nat}
    (path : Relation.TransGen store.Nests inner outer) (later : base ≤ outer) : outer < inner := by
  induction path with
  | single edge =>
    obtain ⟨junction, member⟩ := edge
    exact ascending _ junction _ later member
  | tail _ edge ih =>
    obtain ⟨junction, member⟩ := edge
    have climbed := ascending _ junction _ later member
    exact Nat.lt_trans climbed (ih (Nat.le_trans later (Nat.le_of_lt climbed)))

def Ascending (store : Store) : Prop :=
  ∀ (id : Nat) junction (inner : Nat), (junction, Entry.group inner) ∈ store.entries id → id < inner

theorem ascending_iff : store.Ascending ↔ store.AscendingFrom 0 :=
  ⟨fun ascending id junction inner _ => ascending id junction inner,
    fun ascending id junction inner => ascending id junction inner (Nat.zero_le id)⟩

theorem Ascending.fresh (ascending : store.Ascending) : store.fresh.2.Ascending :=
  ascending_iff.mpr (ascending_iff.mp ascending).fresh

theorem Ascending.add (ascending : store.Ascending) (id : Nat) (junction : Junction) {entry : Entry}
    (younger : ∀ inner : Nat, entry = .group inner → id < inner) : (store.add id junction entry).Ascending :=
  ascending_iff.mpr ((ascending_iff.mp ascending).add junction younger)

theorem Ascending.acyclic (ascending : store.Ascending) : store.Acyclic :=
  fun id path => Nat.lt_irrefl id ((ascending_iff.mp ascending).path path (Nat.zero_le id))

end Ascending

end Store

inductive GroupCall where
  | create
  | call (id : GroupId) (method : GroupMethod) (arguments : List Argument)
  | nested (id : GroupId) (junction : Value)
  | addNested (id inner : GroupId) (junction : Value)

namespace GroupCall

def known (store : Store) : GroupCall → Bool
  | .create => true
  | .call id .. | .nested id _ => decide (id < store.size)
  | .addNested id inner _ => decide (id < store.size) && decide (inner < store.size)

def attempt (adapter : Adapter) (store : Store) : GroupCall → Except Error Store
  | .create => .ok store.fresh.2
  | .call id method arguments => store.call adapter id method arguments
  | .nested id junction => return (← store.nestedNamed id junction).2
  | .addNested id inner junction => store.addNamed id junction (.group inner)

/-- Runs a call on groups that are there; one that fails changes nothing. -/
def run (adapter : Adapter) (store : Store) (call : GroupCall) : Store :=
  if call.known store then (call.attempt adapter store).toOption.getD store else store

def runAll (adapter : Adapter) (calls : List GroupCall) (store : Store) : Store := calls.foldl (run adapter) store

/-- Whether a call adds no raw SQL, and names a column where it needs one. -/
def Plain : GroupCall → Prop
  | .call _ method arguments => ¬ method.IsRaw ∧ ∀ column ∈ arguments.head?, column.NamesColumn
  | _ => True

private theorem run_preserves {adapter : Adapter} {store : Store} {call : GroupCall} {property : Store → Prop}
    (plain : call.Plain) (before : property store) (created : property store.fresh.2)
    (added : ∀ (id : Nat) junction condition, id < store.size → condition.Test →
      property (store.add id junction (.cond condition)))
    (opened : ∀ (id : Nat) junction, id < store.size → property (store.nested id junction).2)
    (linked : ∀ (id inner : Nat) word junction, call = .addNested id inner word → inner < store.size →
      property (store.add id junction (.group inner))) : property (call.run adapter store) := by
  unfold run
  split
  · rename_i known
    cases ran : call.attempt adapter store with
    | error failure => exact before
    | ok grown =>
      simp only [Except.toOption, Option.getD_some]
      cases call with
      | create =>
        cases ran
        exact created
      | call id method arguments =>
        obtain ⟨⟨entry, word⟩, made, ran⟩ := Except.bind_ok ran
        obtain ⟨junction, _, same⟩ := Except.bind_ok ran
        obtain ⟨condition, rfl, structured⟩ := GroupMethod.entry_test plain.1 plain.2 made
        cases same
        exact added id junction condition (of_decide_eq_true known) structured
      | nested id word =>
        obtain ⟨⟨inner, final⟩, ran, same⟩ := Except.bind_ok ran
        obtain ⟨junction, _, done⟩ := Except.bind_ok ran
        cases same
        cases done
        exact opened id junction (of_decide_eq_true known)
      | addNested id inner word =>
        obtain ⟨junction, _, same⟩ := Except.bind_ok ran
        cases same
        exact linked id inner word junction rfl (of_decide_eq_true (Bool.and_eq_true_iff.mp known).2)
  · exact before

/-- What holds of a store that calls have built: its groups are there, and hold tests and groups only. -/
structure Built (store : Store) : Prop where
  closed : store.Closed
  tests : store.Holds Cond.Test

theorem Built.run {adapter : Adapter} {store : Store} {call : GroupCall} (built : Built store) (plain : call.Plain) :
    Built (call.run adapter store) := by
  refine run_preserves plain built ⟨built.closed.fresh, built.tests.fresh⟩ ?_ ?_ ?_
  · intro id junction condition _ structured
    exact ⟨built.closed.add id junction (by simp), built.tests.add id junction structured⟩
  · intro id junction _
    exact ⟨built.closed.nested id junction, built.tests.fresh.add id junction trivial⟩
  · intro id inner word junction _ inside
    refine ⟨built.closed.add id junction ?_, built.tests.add id junction trivial⟩
    intro _ found
    cases found
    exact inside

theorem Built.runAll {adapter : Adapter} {calls : List GroupCall} {store : Store} (built : Built store)
    (plain : ∀ call ∈ calls, call.Plain) : Built (runAll adapter calls store) := by
  induction calls generalizing store with
  | nil => exact built
  | cons call rest ih => exact ih (built.run (plain call (.head _))) fun next member => plain next (.tail _ member)

theorem Built.empty : Built {} := by
  constructor
  · intro id junction inner member
    cases member
  · intro id entry member
    cases member

def Ascends : GroupCall → Prop
  | .addNested id inner _ => id < inner
  | _ => True

private theorem run_ascending {adapter : Adapter} {store : Store} {call : GroupCall} (plain : call.Plain)
    (ascends : call.Ascends) (ascending : store.Ascending) : (call.run adapter store).Ascending := by
  refine run_preserves plain ascending ?_ ?_ ?_ ?_
  · exact ascending.fresh
  · intro id junction condition _ _
    exact ascending.add id junction (by simp)
  · intro id junction inside
    apply ascending.fresh.add id junction
    intro _ found
    cases found
    exact inside
  · intro id inner word junction same _
    apply ascending.add id junction
    intro _ found
    cases found
    rw [same] at ascends
    exact ascends

theorem runAll_acyclic {adapter : Adapter} {calls : List GroupCall} (plain : ∀ call ∈ calls, call.Plain)
    (ascends : ∀ call ∈ calls, call.Ascends) : (runAll adapter calls {}).Acyclic := by
  have run (store : Store) (ascending : store.Ascending) : (runAll adapter calls store).Ascending := by
    induction calls generalizing store with
    | nil => exact ascending
    | cons call rest ih =>
      apply ih (fun next member => plain next (.tail _ member)) (fun next member => ascends next (.tail _ member)) _
      exact run_ascending (plain call (.head _)) (ascends call (.head _)) ascending
  refine (run {} ?_).acyclic
  intro id junction inner member
  cases member

/-- Only a tree that is higher than the limit allows is too high to be read. -/
theorem deeper {store : Store} (closed : store.Closed) {region : GroupId → Prop} {id : Nat} {forest : Forest}
    (unfolds : store.Unfolds region id forest) (deep : store.depth 3 < forest.height) :
    stepLimit / 3 < forest.height := by
  have bound : forest.height ≤ store.size + 1 := by
    rcases Nat.lt_or_ge id store.size with inside | outside
    · exact Nat.le_succ_of_le (unfolds.height_le_size closed inside)
    · obtain ⟨_, entries⟩ := unfolds
      rw [Store.entries_eq_nil outside] at entries
      cases entries
      exact Nat.succ_le_succ (Nat.zero_le _)
  have size : store.groups.length = store.size := rfl
  rw [Store.depth, size] at deep
  omega

/-- A group is read when its tree is not too high and holds no truth value. -/
theorem clause_of_shallow {store : Store} (closed : store.Closed) {region : GroupId → Prop} {id : Nat} {forest : Forest}
    (unfolds : store.Unfolds region id forest) (each : forest.Each fun _ => True)
    (shallow : forest.height ≤ stepLimit / 3) : store.clause? id = .ok forest.clause? := by
  rcases unfolds.clause with done | ⟨_, deep⟩ | ⟨_, settled⟩
  · exact done
  · have less : store.depth 3 < forest.height := by
      simp only [Store.depth] at deep ⊢
      omega
    have more := deeper closed unfolds less
    omega
  · exact absurd each settled

/-- The groups that calls build are read as they should be. Each group has a tree; it is empty, or has no
clause, exactly when its tree holds nothing; and the tokens of the SQL that is written for its clause read, by
the grammar, as the reference fold of the tree, whatever the values of the single predicates. Reading a group
fails only when its tree is nested deeper than the limit allows. -/
theorem runAll_reads (adapter : Adapter) (calls : List GroupCall) (id : GroupId)
    (plain : ∀ call ∈ calls, call.Plain) (acyclic : (runAll adapter calls {}).Acyclic) :
    ∃ forest, (runAll adapter calls {}).Unfolds (fun _ => True) id forest ∧
      Outcome ((runAll adapter calls {}).isEmpty id) forest.hollow (stepLimit / 3 < forest.height) False ∧
      Outcome ((runAll adapter calls {}).clause? id) forest.clause? (stepLimit / 3 < forest.height) False ∧
      (∀ flag clause, (runAll adapter calls {}).isEmpty id = .ok flag →
        (runAll adapter calls {}).clause? id = .ok clause → (clause = none ↔ flag = true)) ∧
      ∀ clause ∈ forest.clause?, ∃ condition, clause = .cond condition ∧
        (∀ dialect, condition.steps ≤ stepLimit →
          condition.written dialect = condition.outline.flatMap (Token.pieces dialect)) ∧
        ∀ reader assignment result, Reads assignment.value .disjunction (condition.tokens reader) result ↔
          forest.value? reader assignment = some result := by
  have built : Built (runAll adapter calls {}) := Built.empty.runAll plain
  obtain ⟨forest, unfolds⟩ := acyclic.unfolds built.closed id
  have each := unfolds.each built.tests
  have shallow : min ((runAll adapter calls {}).depth 1) ((runAll adapter calls {}).depth 3) =
      (runAll adapter calls {}).depth 3 := by
    simp only [Store.depth]
    omega
  have empty := unfolds.isEmpty.weaken (deeper built.closed unfolds) fun impossible => impossible
  have read : Outcome ((runAll adapter calls {}).clause? id) forest.clause? (stepLimit / 3 < forest.height) False := by
    apply unfolds.clause.weaken (fun deep => deeper built.closed unfolds (shallow ▸ deep))
    exact fun settled => settled (each.weaken fun _ _ => trivial)
  refine ⟨forest, unfolds, empty, read, ?_, ?_⟩
  · intro flag clause emptied found
    rw [empty.value emptied, read.value found]
    exact Forest.clause_eq_none
  · intro clause found
    obtain ⟨condition, rfl⟩ := each.cond clause found
    refine ⟨condition, rfl, fun dialect => condition.written_outline dialect, ?_⟩
    intro reader assignment result
    exact (each.apart fun _ structured => structured.safe reader).reads found assignment result

/-- A condition, an alternative with a group of its own, and a group that holds nothing. -/
theorem runAll_reads_mixed :
    ∃ forest, (runAll ⟨.sqlite, .generic⟩ [.create, .call 0 .null [.expression (.literal "a")],
        .nested 0 (.text "and"), .nested 0 (.text "or"), .call 2 .null [.expression (.literal "b")],
        .call 2 .notNull [.expression (.literal "c"), .value (.text "or")], .addNested 0 2 (.text "and")] {}).Unfolds
        (fun _ => True) 0 forest ∧
      ∀ clause ∈ forest.clause?, ∃ condition, clause = .cond condition ∧
        ∀ reader assignment result, Reads assignment.value .disjunction (condition.tokens reader) result ↔
          forest.value? reader assignment = some result := by
  obtain ⟨forest, unfolds, _, _, _, reads⟩ := runAll_reads ⟨.sqlite, .generic⟩
    [.create, .call 0 .null [.expression (.literal "a")], .nested 0 (.text "and"), .nested 0 (.text "or"),
      .call 2 .null [.expression (.literal "b")], .call 2 .notNull [.expression (.literal "c"), .value (.text "or")],
      .addNested 0 2 (.text "and")] 0
    (by simp [Plain, GroupMethod.IsRaw, Argument.NamesColumn])
    (runAll_acyclic (by simp [Plain, GroupMethod.IsRaw, Argument.NamesColumn]) (by simp [Ascends]))
  refine ⟨forest, unfolds, fun clause found => ?_⟩
  obtain ⟨condition, same, _, read⟩ := reads clause found
  exact ⟨condition, same, read⟩

end GroupCall

end DataGrid
