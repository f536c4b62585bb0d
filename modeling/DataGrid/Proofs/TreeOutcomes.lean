import DataGrid.Proofs.FilterPasses
import DataGrid.Proofs.GroupLogics
import DataGrid.Proofs.RefusedLeaves
import DataGrid.Proofs.StatementFaults

/-! How a tree filter ends. The whole tree is read before any of it is compiled, so that a logic which is no junction
leaves the query as it is. Then it is compiled leaf by leaf, and a leaf that no predicate can be made of ends this with
what came before it in the query. -/

namespace DataGrid

open Sql

namespace FilterTree

variable {value : Value}

theorem ofValue_other (other : value.isGroup = false) : ∃ notes, ofValue value = (.ok none, notes) := by
  unfold ofValue
  split
  · exact ⟨_, rfl⟩
  · split
    · next fields _ =>
      rw [if_neg (Bool.not_eq_true _ ▸ other)]
      exact ⟨_, rfl⟩
    · exact ⟨_, rfl⟩

/-- A group is read as a tree when all its logics are junctions, and refused for the first that is none. -/
theorem ofValue_group (group : value.isGroup = true) :
    (∃ token, value.logics.find? (fun token => !token.isLogic) = some token ∧
      ofValue value = (.error (.unknownJunction token.display), [])) ∨
    ((∀ token ∈ value.logics, token.isLogic = true) ∧ ∃ tree, ofValue value = (.ok (some tree), [])) := by
  match value with
  | .object fields =>
    have held : (Value.object fields).truthy = true := by
      cases fields with
      | nil => cases group
      | cons _ _ => rfl
    have described : FilterNode.describesGroup fields = true := group
    have judged := FilterNode.ofValue_judged (.object fields)
    unfold ofValue
    simp only [held, described, Bool.not_true, Bool.false_eq_true, if_false, if_true]
    cases parsed : FilterNode.ofValue (.object fields) with
    | error failure =>
      rw [parsed] at judged
      cases judged with
      | refused unknown => exact .inl ⟨_, unknown, rfl⟩
    | ok node =>
      rw [parsed] at judged
      cases judged with
      | read known =>
        refine .inr ⟨known, ?_⟩
        cases Described.ofValue parsed with
        | group _ _ _ _ | barren _ _ _ _ => exact ⟨_, rfl⟩
        | leaf plain => cases plain.symm.trans described
        | foreign other => exact absurd rfl (other fields)

end FilterTree

namespace Refresh

variable {before : Refresh} {value : Value} {notes : Log}

theorem readTree_eq {found : Except Error (Option FilterTree)} (read : FilterTree.ofValue value = (found, notes)) :
    readTree value before = (found, { before with log := before.log ++ notes }) := by
  rw [readTree, read]
  cases found <;> rfl

/-- A refresh with the groups and the notes that compiling a tree left. -/
def withScope (refresh : Refresh) (scope : Scope) : Refresh :=
  { refresh with query := { refresh.query with store := scope.store }, log := scope.log }

/-- The pass as its two parts: the value is read as a whole, and then a tree is compiled. -/
theorem treeFilter_eq (asked : before.request.filters = .ok value) : treeFilter before =
    match FilterTree.ofValue value with
    | (.error failure, notes) => (.error failure, { before with log := before.log ++ notes })
    | (.ok none, notes) => (.ok (), { before with log := before.log ++ notes })
    | (.ok (some tree), notes) =>
      match tree.compile before.query.adapter before.query.root ⟨before.query.store, before.log ++ notes⟩ with
      | (.error failure, scope) => (.error failure, before.withScope scope)
      | (.ok (), scope) => note "multi_column_filter" { before.withScope scope with applied := true } := by
  have current (refresh : Refresh) : (MonadState.get : Action Refresh Refresh) refresh = (.ok refresh, refresh) := rfl
  have sent : (liftM before.request.filters : Action Refresh Value) before = (.ok value, before) := by
    rw [asked]
    rfl
  rw [treeFilter, Action.bind_eq (current before), Action.bind_eq sent]
  rcases read : FilterTree.ofValue value with ⟨found, notes⟩
  cases found with
  | error failure => exact Action.bind_error (readTree_eq read)
  | ok tree =>
    rw [Action.bind_eq (readTree_eq read)]
    cases tree with
    | none => rfl
    | some tree =>
      dsimp only
      rw [Action.bind_eq (current _)]
      rcases compiled : tree.compile before.query.adapter before.query.root ⟨before.query.store, before.log ++ notes⟩ with
        ⟨result, scope⟩
      have stepped : Action.on (fun refresh : Refresh => (⟨refresh.query.store, refresh.log⟩ : Scope))
          (fun scope refresh => refresh.withScope scope) (tree.compile before.query.adapter before.query.root)
          { before with log := before.log ++ notes } = (result, before.withScope scope) := Action.on_eq compiled
      cases result with
      | error failure => exact Action.bind_error stepped
      | ok done => exact (Action.bind_eq stepped).trans rfl

theorem note_quiet (pass : String) (before : Refresh)
    (quiet : (before.config.debug.truthy && before.debugging) = false) : note pass before = (.ok (), before) := by
  have read : (MonadState.get : Action Refresh Refresh) before = (.ok before, before) := rfl
  rw [note, Action.bind_eq read, quiet, if_neg Bool.false_ne_true]
  rfl

theorem treeFilter_other (asked : before.request.filters = .ok value) (other : value.isGroup = false) :
    ∃ notes, treeFilter before = (.ok (), { before with log := before.log ++ notes }) := by
  obtain ⟨notes, read⟩ := FilterTree.ofValue_other other
  exact ⟨notes, by rw [treeFilter_eq asked, read]⟩

theorem treeFilter_unknown (asked : before.request.filters = .ok value) {token : Value}
    (read : FilterTree.ofValue value = (.error (.unknownJunction token.display), [])) :
    treeFilter before = (.error (.unknownJunction token.display), before) := by
  rw [treeFilter_eq asked, read]
  simp only [List.append_nil]

theorem treeFilter_stopped (asked : before.request.filters = .ok value) {tree : FilterTree} {failure : Error}
    {scope : Scope} (read : FilterTree.ofValue value = (.ok (some tree), []))
    (compiled : tree.compile before.query.adapter before.query.root ⟨before.query.store, before.log⟩ =
      (.error failure, scope)) :
    treeFilter before = (.error failure, before.withScope scope) := by
  rw [treeFilter_eq asked, read]
  simp only [List.append_nil, compiled]

theorem treeFilter_compiled (asked : before.request.filters = .ok value) {tree : FilterTree} {scope : Scope}
    (read : FilterTree.ofValue value = (.ok (some tree), []))
    (compiled : tree.compile before.query.adapter before.query.root ⟨before.query.store, before.log⟩ =
      (.ok (), scope)) :
    treeFilter before = note "multi_column_filter" { before.withScope scope with applied := true } := by
  rw [treeFilter_eq asked, read]
  simp only [List.append_nil, compiled]

/-- A tree that is read is not refused for a logic any more, whatever its leaves are. -/
theorem treeFilter_known (asked : before.request.filters = .ok value) {tree : FilterTree}
    (read : FilterTree.ofValue value = (.ok (some tree), [])) : Blameless (treeFilter before).1 := by
  obtain ⟨scope, _, compiled⟩ :=
    tree.toNode.compile_until before.query.adapter before.query.root .and ⟨before.query.store, before.log⟩
  cases refused : tree.toNode.isRefused with
  | true =>
    rw [refused] at compiled
    rw [treeFilter_stopped asked read compiled]
    exact .error nofun
  | false =>
    rw [refused] at compiled
    rw [treeFilter_compiled asked read compiled]
    exact note_blameless _ _

private def leaf (field operator : String) (value : Value) : Value :=
  .object [("field", .text field), ("operator", .text operator), ("value", value)]

private def group (logic : Value) (filters : List Value) : Value :=
  .object [("logic", logic), ("filters", .list filters)]

private def filtering (filter : Value) : Refresh where
  request := ⟨.object [("filter", filter)]⟩
  config := {}
  query := Query.ofSelect Select.empty .sqlite false
  registry := {}
  paths := PathSet.expand []

private def misspelt : Value :=
  group (.text "and") [leaf "a" "eq" (.int 1), group (.text " OR ") [group (.text "xor") [], group (.int 5) []]]

/-- The groups and notes of a refresh once a tree is compiled: what the leaves of the tree ask for is appended to the
root group, and a note is made for each leaf that is left out. -/
structure AddsTree (before : Refresh) (tree : FilterTree) (scope : Scope) : Prop where
  appended : ∃ forest, tree.toNode.additions before.query.adapter .and = .ok forest ∧
    Store.Appends before.query.root before.query.store scope.store forest
  noted : scope.log = before.log ++ tree.toNode.notes

/-- How the filter of a value ends. What is no group is passed over, and a group with a logic that is no junction is
refused untouched. Any other tree is compiled, up to its first refused leaf where it has one. -/
inductive TreeOutcome (before : Refresh) (value : Value) : Except Error Unit × Refresh → Prop where
  | absent {notes : Log} (other : value.isGroup = false) :
      TreeOutcome before value (.ok (), { before with log := before.log ++ notes })
  | unknown {token} (group : value.isGroup = true)
      (first : value.logics.find? (fun token => !token.isLogic) = some token) :
      TreeOutcome before value (.error (.unknownJunction token.display), before)
  | compiled {tree : FilterTree} {scope : Scope} (known : ∀ token ∈ value.logics, token.isLogic = true)
      (described : Described value tree.toNode) (accepted : tree.toNode.isRefused = false)
      (adds : AddsTree before tree scope) :
      TreeOutcome before value (note "multi_column_filter" { before.withScope scope with applied := true })
  | stopped {tree : FilterTree} {scope : Scope} (known : ∀ token ∈ value.logics, token.isLogic = true)
      (described : Described value tree.toNode) (refused : tree.toNode.isRefused = true)
      (adds : AddsTree before tree.untilRefused scope) :
      TreeOutcome before value (.error .badOperand, before.withScope scope)

theorem TreeOutcome.of_filters (asked : before.request.filters = .ok value) (formed : before.query.Formed) :
    TreeOutcome before value (treeFilter before) := by
  cases group : value.isGroup with
  | false =>
    obtain ⟨notes, passed⟩ := treeFilter_other asked group
    exact passed ▸ .absent group
  | true =>
    rcases FilterTree.ofValue_group group with ⟨token, first, read⟩ | ⟨known, tree, read⟩
    · exact treeFilter_unknown asked read ▸ .unknown group first
    · obtain ⟨described, _⟩ := FilterTree.ofValue_described read
      have inside : before.query.root < (Scope.mk before.query.store before.log).store.size := formed.root
      obtain ⟨forest, scope, added, appended, noted, compiled⟩ := tree.compile_until before.query.adapter inside
      have adds : AddsTree before tree.untilRefused scope := ⟨⟨forest, added, appended⟩, noted⟩
      cases refused : tree.toNode.isRefused with
      | true =>
        rw [refused] at compiled
        exact treeFilter_stopped asked read compiled ▸ .stopped known described refused adds
      | false =>
        rw [refused] at compiled
        rw [FilterTree.untilRefused_whole refused] at adds
        exact treeFilter_compiled asked read compiled ▸ .compiled known described refused adds

private def flagged : Value :=
  group (.text "and") [leaf "a" "eq" (.int 1), leaf "b" "gt" (.bool true), leaf "c" "eq" (.int 2)]

end Refresh

end DataGrid
