import DataGrid.Proofs.FilterMeaning
import Mathlib.Data.List.TakeWhile

/-! Leaves that no predicate can be made of: the operator asks which of two values comes first, and the value is a truth
value. Compiling a tree ends at the first of them, with nothing that comes behind it compiled. What comes before it is
compiled as if the tree ended there. -/

namespace DataGrid

open Sql

/-- Whether an operator asks which of two values comes first. -/
def FilterOperator.isOrdered : FilterOperator → Bool
  | greater | atLeast | less | atMost => true
  | _ => false

namespace FilterOperator

variable {operator : FilterOperator} {value : Value} (left : Expr)

theorem predicate_refused {flag : Bool} (ordered : operator.isOrdered = true) :
    operator.predicate left (.bool flag) = .error .badOperand := by
  cases operator with
  | greater | atLeast | less | atMost => rfl
  | _ => cases ordered

theorem predicate_made (present : value ≠ .null)
    (apart : operator.isOrdered = true → ∀ flag, value ≠ .bool flag) :
    ∃ test, operator.predicate left value = .ok test := by
  cases operator with
  | greater | atLeast | less | atMost =>
    cases value with
    | null => exact absurd rfl present
    | bool flag => exact absurd rfl (apart rfl flag)
    | _ => exact ⟨_, rfl⟩
  | equal | unequal => cases value <;> exact ⟨_, rfl⟩
  | _ => exact ⟨_, rfl⟩

end FilterOperator

namespace FilterLeaf

variable (adapter : Adapter) (id : GroupId) (junction : Junction) (scope : Scope) {leaf : FilterLeaf}

/-- Whether a leaf that has all its parts asks for the order of a truth value. -/
def isRefused (leaf : FilterLeaf) : Bool :=
  match leaf.operator?, leaf.value with
  | some operator, .bool _ => operator.isOrdered
  | _, _ => false

theorem outcome_eq (leaf : FilterLeaf) : leaf.outcome adapter =
    match leaf.operator? with
    | none => .ok (.skipped leaf.note.text)
    | some operator => (operator.predicate (adapter.column leaf.field.display) leaf.value).map .predicate := by
  have parts : leaf.isIncomplete = (leaf.field.missing || leaf.operator.missing || leaf.value.missing) := rfl
  rw [outcome, ← parts, operator?, note]
  cases leaf.isIncomplete with
  | true => rfl
  | false => cases FilterOperator.ofWord? (String.ofList (Text.trim leaf.operator.display.toList)) <;> rfl

theorem value_ne_null {operator : FilterOperator} (kept : leaf.operator? = some operator) : leaf.value ≠ .null := by
  intro null
  simp [operator?, isIncomplete, null, Value.missing] at kept

theorem outcome_refused (refused : leaf.isRefused = true) : leaf.outcome adapter = .error .badOperand := by
  rw [outcome_eq]
  unfold isRefused at refused
  split at refused
  · next operator flag kept value =>
    rw [kept, value]
    exact congrArg (Except.map LeafOutcome.predicate) (FilterOperator.predicate_refused _ refused)
  · cases refused

theorem outcome_made (accepted : leaf.isRefused = false) : ∃ outcome, leaf.outcome adapter = .ok outcome := by
  rw [outcome_eq]
  cases kept : leaf.operator? with
  | none => exact ⟨_, rfl⟩
  | some operator =>
    have apart : operator.isOrdered = true → ∀ flag, leaf.value ≠ .bool flag := by
      intro ordered flag value
      simp [isRefused, kept, value, ordered] at accepted
    obtain ⟨test, made⟩ :=
      FilterOperator.predicate_made (adapter.column leaf.field.display) (value_ne_null kept) apart
    exact ⟨.predicate test, congrArg (Except.map LeafOutcome.predicate) made⟩

theorem compile_refused (refused : leaf.isRefused = true) :
    leaf.compile adapter id junction scope = (.error .badOperand, scope) := by
  rw [compile, outcome_refused adapter refused]

theorem compile_made (accepted : leaf.isRefused = false) :
    ∃ added after, leaf.compile adapter id junction scope = (.ok added, after) := by
  obtain ⟨outcome, made⟩ := outcome_made adapter accepted
  rw [compile, made]
  cases outcome with
  | skipped reason => exact ⟨_, _, rfl⟩
  | predicate test => exact ⟨_, _, rfl⟩

end FilterLeaf

namespace FilterNode

def isRefused (node : FilterNode) : Bool := node.leaves.any FilterLeaf.isRefused

mutual

/-- What of a node comes before its first refused leaf, with the groups that this leaf stands in. -/
def untilRefused : FilterNode → List FilterNode
  | .leaf content => if content.isRefused then [] else [.leaf content]
  | .group logic children => [.group logic (allUntilRefused children)]

def allUntilRefused : List FilterNode → List FilterNode
  | [] => []
  | node :: rest => node.untilRefused ++ if node.isRefused then [] else allUntilRefused rest

end

theorem allLeaves_append (first second : List FilterNode) :
    allLeaves (first ++ second) = allLeaves first ++ allLeaves second := by
  induction first with
  | nil => rfl
  | cons node rest ih => rw [List.cons_append, allLeaves, allLeaves, ih, List.append_assoc]

private theorem takeWhile_append_refused {first : List FilterLeaf} (second : List FilterLeaf)
    (refused : first.any FilterLeaf.isRefused = true) :
    (first ++ second).takeWhile (fun leaf => !leaf.isRefused) = first.takeWhile fun leaf => !leaf.isRefused := by
  rw [List.takeWhile_append, if_neg]
  intro whole
  have same := List.takeWhile_eq_self_iff.mp ((List.takeWhile_prefix _).eq_of_length whole)
  obtain ⟨leaf, member, stops⟩ := List.any_eq_true.mp refused
  simpa [stops] using same leaf member

private theorem accepted_of_any {first : List FilterLeaf} (accepted : first.any FilterLeaf.isRefused = false) :
    ∀ leaf ∈ first, (!leaf.isRefused) = true := by
  simpa using accepted

mutual

theorem leaves_untilRefused (node : FilterNode) :
    allLeaves node.untilRefused = node.leaves.takeWhile fun leaf => !leaf.isRefused := by
  match node with
  | .leaf content =>
    rw [untilRefused, leaves]
    cases refused : content.isRefused <;> simp [refused, allLeaves, leaves]
  | .group logic children =>
    rw [untilRefused, allLeaves, leaves, leaves, allLeaves, List.append_nil, allLeaves_untilRefused children]

theorem allLeaves_untilRefused (nodes : List FilterNode) :
    allLeaves (allUntilRefused nodes) = (allLeaves nodes).takeWhile fun leaf => !leaf.isRefused := by
  match nodes with
  | [] => rfl
  | node :: rest =>
    rw [allUntilRefused, allLeaves_append, leaves_untilRefused node, allLeaves]
    cases refused : node.isRefused with
    | true => rw [takeWhile_append_refused _ refused, if_pos rfl, allLeaves, List.append_nil]
    | false =>
      have accepted := accepted_of_any refused
      rw [List.takeWhile_append_of_pos accepted, List.takeWhile_eq_self_iff.mpr accepted, if_neg Bool.false_ne_true,
        allLeaves_untilRefused rest]

end

mutual

theorem untilRefused_whole {node : FilterNode} (accepted : node.isRefused = false) : node.untilRefused = [node] := by
  match node with
  | .leaf content =>
    have kept : content.isRefused = false := by simpa [isRefused, leaves] using accepted
    rw [untilRefused, kept, if_neg Bool.false_ne_true]
  | .group logic children => rw [untilRefused, allUntilRefused_whole accepted]

theorem allUntilRefused_whole {nodes : List FilterNode}
    (accepted : (allLeaves nodes).any FilterLeaf.isRefused = false) : allUntilRefused nodes = nodes := by
  match nodes with
  | [] => rfl
  | node :: rest =>
    rw [allLeaves, List.any_append, Bool.or_eq_false_iff] at accepted
    obtain ⟨head, tail⟩ := accepted
    have first : node.isRefused = false := head
    rw [allUntilRefused, untilRefused_whole head, allUntilRefused_whole tail, first, if_neg Bool.false_ne_true]
    rfl

end

variable (adapter : Adapter)

theorem compileAll_append {id : GroupId} {junction : Junction} {first second : List FilterNode} {before after : Scope}
    (ran : compileAll adapter id junction first before = (.ok (), after)) :
    compileAll adapter id junction (first ++ second) before = compileAll adapter id junction second after := by
  induction first generalizing before with
  | nil =>
    cases ran
    rfl
  | cons node rest ih =>
    rw [compileAll] at ran
    obtain ⟨_, middle, one, others⟩ := Action.bind_ok ran
    rw [List.cons_append, compileAll, Action.bind_eq one]
    exact ih others

mutual

/-- A node is compiled up to its first refused leaf, and that leaf is the one cause to fail. The scope that is reached is
the same with and without what comes behind the leaf. -/
theorem compile_until (node : FilterNode) (id : GroupId) (junction : Junction) (before : Scope) :
    ∃ after, compileAll adapter id junction node.untilRefused before = (.ok (), after) ∧
      node.compile adapter id junction before = (if node.isRefused then .error .badOperand else .ok (), after) := by
  match node with
  | .leaf content =>
    have same : isRefused (.leaf content) = content.isRefused := by simp [isRefused, leaves]
    rw [untilRefused, same]
    cases refused : content.isRefused with
    | true =>
      exact ⟨before, rfl, Action.bind_error (FilterLeaf.compile_refused adapter id junction before refused)⟩
    | false =>
      obtain ⟨added, after, made⟩ := FilterLeaf.compile_made adapter id junction before refused
      have compiled : (FilterNode.leaf content).compile adapter id junction before = (.ok (), after) :=
        Action.bind_eq made
      exact ⟨after, Action.bind_eq compiled, compiled⟩
  | .group logic children =>
    obtain ⟨after, cut, whole⟩ := compileAll_until children (before.store.nested id junction).1 logic
      { before with store := (before.store.nested id junction).2 }
    refine ⟨after, ?_, whole⟩
    have compiled : (FilterNode.group logic (allUntilRefused children)).compile adapter id junction before =
      (.ok (), after) := cut
    exact Action.bind_eq compiled

theorem compileAll_until (nodes : List FilterNode) (id : GroupId) (junction : Junction) (before : Scope) :
    ∃ after, compileAll adapter id junction (allUntilRefused nodes) before = (.ok (), after) ∧
      compileAll adapter id junction nodes before =
        (if (allLeaves nodes).any FilterLeaf.isRefused then .error .badOperand else .ok (), after) := by
  match nodes with
  | [] => exact ⟨before, rfl, rfl⟩
  | node :: rest =>
    obtain ⟨middle, one, compiled⟩ := compile_until node id junction before
    rw [compileAll, allUntilRefused, allLeaves, List.any_append, compileAll_append adapter one]
    change node.compile adapter id junction before =
      (if node.leaves.any FilterLeaf.isRefused then .error .badOperand else .ok (), middle) at compiled
    cases refused : node.leaves.any FilterLeaf.isRefused with
    | true =>
      rw [refused] at compiled
      have same : node.isRefused = true := refused
      rw [same]
      exact ⟨middle, rfl, Action.bind_error compiled⟩
    | false =>
      rw [refused] at compiled
      have same : node.isRefused = false := refused
      rw [same, Bool.false_or, Action.bind_eq compiled]
      exact compileAll_until rest id junction middle

end

end FilterNode

namespace FilterTree

/-- A tree up to its first refused leaf. -/
def untilRefused (tree : FilterTree) : FilterTree :=
  { tree with children := FilterNode.allUntilRefused tree.children }

theorem leaves_untilRefused (tree : FilterTree) :
    tree.untilRefused.toNode.leaves = tree.toNode.leaves.takeWhile fun leaf => !leaf.isRefused :=
  FilterNode.allLeaves_untilRefused tree.children

theorem untilRefused_whole {tree : FilterTree} (accepted : tree.toNode.isRefused = false) : tree.untilRefused = tree :=
  congrArg (FilterTree.mk tree.logic) (FilterNode.allUntilRefused_whole accepted)

/-- Compiling a tree adds what the tree up to its first refused leaf describes, and fails when there is such a leaf. -/
theorem compile_until (tree : FilterTree) (adapter : Adapter) {id : GroupId} {before : Scope}
    (inside : id < before.store.size) :
    ∃ forest after, tree.untilRefused.toNode.additions adapter .and = .ok forest ∧
      Store.Appends id before.store after.store forest ∧ after.log = before.log ++ tree.untilRefused.toNode.notes ∧
      tree.compile adapter id before = (if tree.toNode.isRefused then .error .badOperand else .ok (), after) := by
  obtain ⟨after, cut, compiled⟩ := tree.toNode.compile_until adapter id .and before
  obtain ⟨_, _, cut, done⟩ := Action.bind_ok cut
  cases done
  obtain ⟨forest, added, appended⟩ := FilterNode.compile_appends inside cut
  exact ⟨forest, after, added, appended, FilterNode.compile_log cut, compiled⟩

end FilterTree

end DataGrid
