import DataGrid.Query.Workspace
import DataGrid.Proofs.GroupCopies
import DataGrid.Proofs.QueryGrowth

/-! The calls on a workspace: on groups, on the queries of handles, and those that open or copy either. Each writes to
one group or to the root of one handle at most, and to the lists of that handle; what it opens has groups and places
of its own. -/

namespace DataGrid

open Sql

namespace Store

/-- A store with an entry in a group, unless it is not clear how to join it. -/
def tryAdd (store : Store) (id : GroupId) (word : Value) (entry : Entry) : Store :=
  (store.addNamed id word entry).toOption.getD store

theorem Writes.tryAdd {target link : GroupId → Prop} {store : Store} {id : Nat} (word : Value) {entry : Entry}
    (written : target id) (linked : ∀ inner : Nat, entry = .group inner → link inner ∧ inner < store.size) :
    Writes target link store (store.tryAdd id word entry) := by
  unfold Store.tryAdd
  cases added : store.addNamed id word entry with
  | error failure => exact .refl store
  | ok grown =>
    obtain ⟨junction, _, same⟩ := Except.bind_ok added
    cases same
    exact .add junction written linked

end Store

/-- A step on a query that writes to its root group alone. -/
structure Query.Confined (link : GroupId → Prop) (before after : Query) : Prop where
  base : after.base = before.base
  adapter : after.adapter = before.adapter
  root : after.root = before.root
  store : Store.Writes (· = before.root) link before.store after.store

theorem Query.Alike.confined {link : GroupId → Prop} {before after : Query} (alike : Alike before after) :
    Confined link before after := by
  refine ⟨alike.base, alike.adapter, alike.root, ?_⟩
  rw [alike.store]
  exact .refl _

theorem Query.confined_of_store {link : GroupId → Prop} {query : Query} {store : Store}
    (writes : Store.Writes (· = query.root) link query.store store) :
    Confined link query { query with store := store } := ⟨rfl, rfl, rfl, writes⟩

theorem QueryStep.run_confined (step : QueryStep) (query : Query) :
    Query.Confined (fun _ => False) query (step.run query).2 := by
  cases step with
  | call method arguments =>
    simp only [run]
    split
    · next answer after called =>
      obtain ⟨inner, _, called⟩ | ⟨_, alike⟩ := Query.call_cases called
      · obtain ⟨store, ran, same⟩ := Except.bind_ok called
        cases same
        exact Query.confined_of_store (.call rfl ran)
      · exact alike.confined
    · exact (Query.Alike.refl query).confined
  | nested word steps =>
    simp only [run]
    split
    · exact (Query.Alike.refl query).confined
    · next inner grown opened =>
      have first : Store.Writes (· = query.root) (fun _ => False) query.store grown := .nestedNamed rfl opened
      obtain rfl := Store.nestedNamed_size opened
      have filled := GroupStep.runAll_writes query.adapter query.store.size steps grown
      cases ran : GroupStep.runAll query.adapter query.store.size steps grown with
      | mk result final =>
        rw [ran] at filled
        have wrote : onStore (GroupStep.runAll query.adapter query.store.size steps) { query with store := grown } =
            (result, { query with store := final }) := Action.on_eq ran
        have writes : Store.Writes (· = query.root) (fun _ => False) query.store final := by
          refine first.trans filled ?_ fun _ => .inl
          rintro _ rfl
          exact .inr (Nat.le_refl _)
        cases result with
        | error failure =>
          rw [Action.bind_error wrote]
          exact Query.confined_of_store writes
        | ok done =>
          rw [Action.bind_eq wrote]
          exact Query.confined_of_store writes

/-- The calls on the query of a handle. -/
inductive HandleCall where
  | step (step : QueryStep)
  | condition (condition : Cond) (junction : Value)
  | group (inner : GroupId) (junction : Value)
  | leftJoin (target : TableName) (on : Cond)
  | addItem (item : Option Item)
  | orderBy (term : SortTerm)

namespace HandleCall

/-- Runs a call on a query, whether it comes through or fails. Only a group that is there can be nested. -/
def run (query : Query) : HandleCall → Query
  | .step asked => (asked.run query).2
  | .condition test word => { query with store := query.store.tryAdd query.root word (.cond test) }
  | .group inner word =>
    if inner < query.store.size then { query with store := query.store.tryAdd query.root word (.group inner) }
    else query
  | .leftJoin target on => (query.leftJoin target on).2
  | .addItem item => query.addItem item
  | .orderBy term => query.orderBy term

/-- Whether a call nests a group that it is handed. -/
def Hands : HandleCall → GroupId → Prop
  | .group inner _ => (· = inner)
  | _ => fun _ => False

theorem run_confined (call : HandleCall) (query : Query) : Query.Confined call.Hands query (run query call) := by
  cases call with
  | step asked =>
    obtain ⟨base, adapter, root, store⟩ := asked.run_confined query
    exact ⟨base, adapter, root, store.weaken (fun _ => id) fun _ => False.elim⟩
  | condition test word => exact Query.confined_of_store (.tryAdd word rfl nofun)
  | group inner word =>
    simp only [run]
    split
    · next inside =>
      refine Query.confined_of_store (.tryAdd word rfl ?_)
      rintro _ ⟨⟩
      exact ⟨rfl, inside⟩
    · exact (Query.Alike.refl query).confined
  | leftJoin target on => exact (Query.leftJoin_alike query target on).confined
  | addItem | orderBy => exact Query.Alike.confined ⟨rfl, rfl, rfl, rfl⟩

end HandleCall

namespace GroupCall

/-- Whether a call writes to a group. -/
def Targets : GroupCall → GroupId → Prop
  | .create => fun _ => False
  | .call id _ _ | .nested id _ | .addNested id _ _ => (· = id)

/-- Whether a call nests a group that it is handed. -/
def Hands : GroupCall → GroupId → Prop
  | .addNested _ inner _ => (· = inner)
  | _ => fun _ => False

theorem run_writes (adapter : Adapter) (call : GroupCall) (store : Store) :
    Store.Writes call.Targets call.Hands store (call.run adapter store) := by
  unfold run
  split
  · next known =>
    cases ran : call.attempt adapter store with
    | error failure => exact .refl store
    | ok grown =>
      simp only [Except.toOption, Option.getD_some]
      cases call with
      | create =>
        cases ran
        exact .fresh store
      | call id method arguments => exact .call rfl ran
      | nested id word =>
        obtain ⟨⟨inner, final⟩, opened, same⟩ := Except.bind_ok ran
        cases same
        exact .nestedNamed rfl opened
      | addNested id inner word =>
        obtain ⟨junction, _, same⟩ := Except.bind_ok ran
        cases same
        refine .add junction rfl ?_
        rintro _ ⟨⟩
        exact ⟨rfl, of_decide_eq_true (Bool.and_eq_true_iff.mp known).2⟩
  · exact .refl store

end GroupCall

namespace Workspace

inductive Call where
  | group (adapter : Adapter) (call : GroupCall)
  | condition (id : GroupId) (condition : Cond) (junction : Value)
  | copy (id : GroupId)
  | handle (index : Nat) (call : HandleCall)
  | clone (index : Nat)
  | addQuery (base : Select) (dialect : Dialect) (oracle : Bool)

/-- Runs a call. What a step on a query did before it failed stays done; no other call that fails changes anything. -/
def run (workspace : Workspace) : Call → Workspace
  | .group adapter call => { workspace with store := call.run adapter workspace.store }
  | .condition id test word => { workspace with store := workspace.store.tryAdd id word (.cond test) }
  | .copy id =>
    match workspace.store.copy id with
    | .ok (_, store) => { workspace with store := store }
    | .error _ => workspace
  | .handle index call => (workspace.step index fun query => (Except.ok (), call.run query)).2
  | .clone index => (workspace.clone index).toOption.getD workspace
  | .addQuery base dialect oracle => workspace.addQuery base dialect oracle

def runAll (workspace : Workspace) (calls : List Call) : Workspace := calls.foldl run workspace

/-- Every group and list that is referred to is there. -/
structure Formed (workspace : Workspace) : Prop where
  closed : workspace.store.Closed
  roots : ∀ (index : Nat) handle, workspace.handles[index]? = some handle → handle.root < workspace.store.size
  places : ∀ (index : Nat) handle, workspace.handles[index]? = some handle →
    ∀ kind, handle.places kind < (workspace.lists kind).length

/-- What a call may do: write to some groups and to the lists of one handle, and add groups, lists and handles. -/
structure Effect (target link : GroupId → Prop) (worked : Nat → Prop) (before after : Workspace) : Prop where
  store : Store.Writes target link before.store after.store
  sizes : ∀ kind, (before.lists kind).length ≤ (after.lists kind).length
  lists : ∀ kind (place : Nat), place < (before.lists kind).length →
    (∀ (index : Nat) handle, worked index → before.handles[index]? = some handle → handle.places kind ≠ place) →
    (after.lists kind)[place]? = (before.lists kind)[place]?
  handles : ∀ (index : Nat) handle, before.handles[index]? = some handle → ∃ offset limit,
    after.handles[index]? = some { handle with offset := offset, limit := limit } ∧
      (¬worked index → offset = handle.offset ∧ limit = handle.limit)
  opened : ∀ (index : Nat) handle, before.handles.length ≤ index → after.handles[index]? = some handle →
    (before.store.size ≤ handle.root ∧ handle.root < after.store.size) ∧
      ∀ kind, (before.lists kind).length ≤ handle.places kind ∧ handle.places kind < (after.lists kind).length

namespace Effect

variable {target link : GroupId → Prop} {worked : Nat → Prop} {before after : Workspace}

theorem of_store {store : Store} (writes : Store.Writes target link before.store store) :
    Effect target link worked before { before with store := store } where
  store := writes
  sizes _ := Nat.le_refl _
  lists _ _ _ _ := rfl
  handles _ handle found := ⟨handle.offset, handle.limit, found, fun _ => ⟨rfl, rfl⟩⟩
  opened index handle later found := by
    rw [List.getElem?_eq_none later] at found
    cases found

theorem attach {query : Query} (writes : Store.Writes target link before.store query.store)
    (opened : before.store.size ≤ query.root) (inside : query.root < query.store.size) :
    Effect target link worked before (before.attach query) where
  store := writes
  sizes kind := by simp [Workspace.attach]
  lists kind place low _ := List.getElem?_append_left low
  handles index handle found := by
    refine ⟨handle.offset, handle.limit, ?_, fun _ => ⟨rfl, rfl⟩⟩
    have low := (List.getElem?_eq_some_iff.mp found).1
    exact (List.getElem?_append_left low).trans found
  opened index handle later found := by
    have low := (List.getElem?_eq_some_iff.mp found).1
    have only : index = before.handles.length := by
      simp only [Workspace.attach, List.length_append, List.length_singleton] at low
      omega
    subst only
    cases found.symm.trans List.getElem?_concat_length
    exact ⟨⟨opened, inside⟩, fun kind => ⟨Nat.le_refl _, by simp [Workspace.attach]⟩⟩

theorem write {index : Nat} {handle : Handle} {query : Query} (found : before.handles[index]? = some handle)
    (writes : Store.Writes target link before.store query.store) :
    Effect target link (· = index) before (before.write index handle query) where
  store := writes
  sizes kind := by simp [Workspace.write]
  lists kind place low apart := List.getElem?_set_ne (apart index handle rfl found)
  handles other handle' found' := by
    by_cases same : index = other
    · subst same
      cases found.symm.trans found'
      have low := (List.getElem?_eq_some_iff.mp found).1
      exact ⟨query.offset, query.limit, List.getElem?_set_self low, fun apart => absurd rfl apart⟩
    · refine ⟨handle'.offset, handle'.limit, ?_, fun _ => ⟨rfl, rfl⟩⟩
      exact (List.getElem?_set_ne same).trans found'
  opened other handle' later found' := by
    have low := (List.getElem?_eq_some_iff.mp found').1
    simp only [Workspace.write, List.length_set] at low
    exact absurd later (Nat.not_le_of_lt low)

/-- A handle afterwards is one that was there, but for its window, or refers to what is new alone. -/
theorem handle_cases (effect : Effect target link worked before after) {index : Nat} {handle : Handle}
    (found : after.handles[index]? = some handle) :
    (∃ old, before.handles[index]? = some old ∧ handle.root = old.root ∧ handle.places = old.places) ∨
      before.handles.length ≤ index ∧ (before.store.size ≤ handle.root ∧ handle.root < after.store.size) ∧
        ∀ kind, (before.lists kind).length ≤ handle.places kind ∧ handle.places kind < (after.lists kind).length := by
  cases held : before.handles[index]? with
  | some old =>
    obtain ⟨offset, limit, now, _⟩ := effect.handles index old held
    cases found.symm.trans now
    exact .inl ⟨old, rfl, rfl, rfl⟩
  | none =>
    have later := List.getElem?_eq_none_iff.mp held
    exact .inr ⟨later, effect.opened index handle later found⟩

theorem present (effect : Effect target link worked before after) {index : Nat} (low : index < before.handles.length) :
    index < after.handles.length := by
  obtain ⟨_, _, found, _⟩ := effect.handles index _ (List.getElem?_eq_getElem low)
  exact (List.getElem?_eq_some_iff.mp found).1

theorem formed (effect : Effect target link worked before after) (formed : before.Formed) : after.Formed := by
  refine ⟨effect.store.closed formed.closed, ?_, ?_⟩
  · intro index handle found
    obtain ⟨old, held, root, _⟩ | ⟨_, ⟨_, inside⟩, _⟩ := effect.handle_cases found
    · rw [root]
      exact Nat.lt_of_lt_of_le (formed.roots index old held) effect.store.size
    · exact inside
  · intro index handle found kind
    obtain ⟨old, held, _, places⟩ | ⟨_, _, opened⟩ := effect.handle_cases found
    · rw [places]
      exact Nat.lt_of_lt_of_le (formed.places index old held kind) (effect.sizes kind)
    · exact (opened kind).2

end Effect

/-- The groups that a call writes to, if they were there before. -/
def Call.Targets (workspace : Workspace) : Call → GroupId → Prop
  | .group _ call => call.Targets
  | .condition id _ _ => (· = id)
  | .handle index _ => fun id => ∃ handle, workspace.handles[index]? = some handle ∧ handle.root = id
  | _ => fun _ => False

/-- The groups that a call is handed to be nested. -/
def Call.Hands : Call → GroupId → Prop
  | .group _ call => call.Hands
  | .handle _ call => call.Hands
  | _ => fun _ => False

/-- The handle on whose query a call works. -/
def Call.Works : Call → Nat → Prop
  | .handle index _ => (· = index)
  | _ => fun _ => False

theorem clone_ok {workspace after : Workspace} {index : Nat} (cloned : workspace.clone index = .ok after) :
    ∃ handle root store, workspace.handles[index]? = some handle ∧ workspace.store.copy handle.root = .ok (root, store) ∧
      after = workspace.attach { workspace.read handle with store := store, root := root } := by
  unfold clone at cloned
  split at cloned
  · cases cloned
  · next handle found =>
    obtain ⟨⟨root, store⟩, copied, same⟩ := Except.bind_ok cloned
    cases same
    exact ⟨handle, root, store, found, copied, rfl⟩

/-- A clone stands on a copy of the root group, with places of its own. -/
theorem clone_effect {target link : GroupId → Prop} {worked : Nat → Prop} {workspace after : Workspace} {index : Nat}
    (cloned : workspace.clone index = .ok after) : Effect target link worked workspace after := by
  obtain ⟨handle, root, store, _, copied, rfl⟩ := clone_ok cloned
  have copies : Store.Copies 0 workspace.store root store := Store.copyWithin_copies copied
  have same := copies.first
  have larger := copies.larger
  refine .attach (copies.writes.weaken (fun _ => False.elim) fun _ => False.elim) ?_ ?_
  · exact Nat.le_of_eq same.symm
  · exact same ▸ larger

theorem run_effect (workspace : Workspace) (call : Call) :
    Effect (call.Targets workspace) call.Hands call.Works workspace (workspace.run call) := by
  cases call with
  | group adapter call => exact .of_store (call.run_writes adapter workspace.store)
  | condition id test word => exact .of_store (.tryAdd word rfl nofun)
  | copy id =>
    simp only [run]
    split
    · next duplicate store copied =>
      have copies : Store.Copies 0 workspace.store duplicate store := Store.copyWithin_copies copied
      exact .of_store copies.writes
    · exact .of_store (.refl _)
  | handle index call =>
    simp only [run, step]
    split
    · exact .of_store (.refl _)
    · next handle found =>
      have confined := call.run_confined (workspace.read handle)
      refine .write found (confined.store.weaken ?_ fun _ => id)
      rintro _ rfl
      exact ⟨handle, found, rfl⟩
  | clone index =>
    simp only [run]
    cases cloned : workspace.clone index with
    | error failure => exact .of_store (.refl _)
    | ok after => exact clone_effect cloned
  | addQuery base dialect oracle =>
    refine .attach (.fresh workspace.store) (Nat.le_refl _) ?_
    exact Nat.lt_of_lt_of_eq (Nat.lt_succ_self _) (Store.size_fresh workspace.store).symm

theorem Formed.run {workspace : Workspace} (formed : workspace.Formed) (call : Call) : (workspace.run call).Formed :=
  (run_effect workspace call).formed formed

theorem Formed.runAll {workspace : Workspace} (formed : workspace.Formed) (calls : List Call) :
    (workspace.runAll calls).Formed := by
  induction calls generalizing workspace with
  | nil => exact formed
  | cons call rest ih => exact ih (formed.run call)

theorem Formed.empty : ({} : Workspace).Formed :=
  ⟨Store.Closed.empty, fun _ _ found => by simp at found, fun _ _ found => by simp at found⟩

end Workspace

end DataGrid
