import DataGrid.Proofs.SeparateParts

/-! Copies of groups and clones of queries have nothing to do with what there was before. Calls on one side leave the
other side as it reads, whichever side they are on and in whatever order they come, as long as they hand no group of
one side to the other. -/

namespace DataGrid

open Sql

namespace Workspace

/-- Whether a call writes to none of the groups and handles of a part. -/
def Call.Spares (part : Part) : Call → Prop
  | .group _ call => ∀ id, call.Targets id → ¬part.groups id
  | .condition id _ _ => ¬part.groups id
  | .handle index _ => ¬part.handles index
  | .copy _ | .clone _ | .addQuery _ _ _ => True

/-- Whether a call writes to groups and handles of a part alone, and is handed no other groups to nest. -/
def Call.Within (part : Part) : Call → Prop
  | .group _ call => ∀ id, call.Targets id ∨ call.Hands id → part.groups id
  | .condition id _ _ => part.groups id
  | .handle index call => part.handles index ∧ ∀ id, call.Hands id → part.groups id
  | .copy _ | .clone _ | .addQuery _ _ _ => True

variable {part one other : Part} {before after workspace : Workspace} {call : Call}

theorem Call.Spares.works (spares : call.Spares part) : ∀ index, call.Works index → ¬part.handles index := by
  cases call with
  | handle index inner =>
    rintro _ rfl
    exact spares
  | group | condition | copy | clone | addQuery => nofun

/-- The root group of a handle is in a part with the handle alone. -/
theorem Call.Spares.targets (spares : call.Spares part) (apart : part.Apart workspace) :
    ∀ id, call.Targets workspace id → ¬part.groups id := by
  cases call with
  | group adapter inner => exact spares
  | condition id test word =>
    rintro _ rfl
    exact spares
  | handle index inner =>
    rintro _ ⟨handle, found, rfl⟩ member
    exact spares ((apart.roots index handle found).mp member)
  | copy | clone | addQuery => nofun

theorem Call.Within.links (within : call.Within part) : ∀ inner, call.Hands inner → part.groups inner := by
  cases call with
  | group adapter call => exact fun inner handed => within inner (.inr handed)
  | handle index call => exact within.2
  | condition | copy | clone | addQuery => nofun

/-- Two parts of a workspace that share no group and no handle. -/
structure Beside (one other : Part) (workspace : Workspace) : Prop where
  formed : workspace.Formed
  left : one.Apart workspace
  right : other.Apart workspace
  groups : ∀ id, one.groups id → ¬other.groups id
  handles : ∀ index, one.handles index → ¬other.handles index

namespace Beside

theorem symm (beside : Beside one other workspace) : Beside other one workspace where
  formed := beside.formed
  left := beside.right
  right := beside.left
  groups id member held := beside.groups id held member
  handles index member held := beside.handles index held member

theorem spares (beside : Beside one other workspace) (within : call.Within one) : call.Spares other := by
  cases call with
  | group adapter call => exact fun id written => beside.groups id (within id (.inl written))
  | condition id test word => exact beside.groups id within
  | handle index call => exact beside.handles index within.1
  | copy | clone | addQuery => trivial

/-- A call within one part leaves the other as it was. The first one keeps what the call opens. -/
theorem turn (beside : Beside one other workspace) (within : call.Within one) :
    Beside (one.grown workspace (workspace.run call)) other (workspace.run call) ∧
      other.Kept workspace (workspace.run call) := by
  have effect := run_effect workspace call
  have spares := beside.spares within
  have targets := spares.targets beside.right
  refine ⟨?_, beside.right.kept effect beside.formed targets spares.works⟩
  refine ⟨beside.formed.run call, beside.left.grown effect beside.formed within.links,
    beside.right.spared effect beside.formed targets, ?_, ?_⟩
  · rintro id (held | opened) member
    · exact beside.groups id held member
    · exact Nat.not_lt_of_le opened.1 (beside.right.groups id member)
  · rintro index (held | opened) member
    · exact beside.handles index held member
    · exact Nat.not_lt_of_le opened.1 (beside.right.handles index member)

theorem reads (beside : Beside one other workspace) (acyclic : workspace.store.Acyclic) (within : call.Within one) :
    other.Reads workspace (workspace.run call) := by
  obtain ⟨later, kept⟩ := beside.turn within
  exact kept.reads beside.right later.right beside.formed later.formed acyclic

end Beside

/-- What calls within two parts come to, in whatever order they are made. Each part grows by what its calls open. -/
inductive Interleaved (one other : Part) (start : Workspace) : Part → Part → Workspace → Prop where
  | start : Interleaved one other start one other start
  | left {mine theirs : Part} {now : Workspace} (earlier : Interleaved one other start mine theirs now) {call : Call}
      (within : call.Within mine) :
      Interleaved one other start (mine.grown now (now.run call)) theirs (now.run call)
  | right {mine theirs : Part} {now : Workspace} (earlier : Interleaved one other start mine theirs now) {call : Call}
      (within : call.Within theirs) :
      Interleaved one other start mine (theirs.grown now (now.run call)) (now.run call)

theorem Interleaved.beside {start now : Workspace} {mine theirs : Part}
    (interleaved : Interleaved one other start mine theirs now) (beside : Beside one other start) :
    Beside mine theirs now := by
  induction interleaved with
  | start => exact beside
  | left _ within ih => exact (ih.turn within).1
  | right _ within ih => exact (ih.symm.turn within).1.symm

/-- A part that all calls spare stays apart and as it was. -/
theorem runAll_spares (apart : part.Apart workspace) (formed : workspace.Formed) (calls : List Call)
    (spares : ∀ call ∈ calls, call.Spares part) :
    part.Apart (workspace.runAll calls) ∧ part.Kept workspace (workspace.runAll calls) := by
  induction calls generalizing workspace with
  | nil => exact ⟨apart, .refl part workspace⟩
  | cons call rest ih =>
    have effect := run_effect workspace call
    have spared := spares call (.head _)
    have targets := spared.targets apart
    have kept := apart.kept effect formed targets spared.works
    obtain ⟨last, more⟩ :=
      ih (apart.spared effect formed targets) (formed.run call) fun next member => spares next (.tail _ member)
    exact ⟨last, kept.trans more⟩

/-- What there was before a call and what the call has opened are separate. Neither nests groups of the other, calls
that spare one leave it as it reads, and so does each call within the other when calls within both take turns. -/
structure Separate (before after : Workspace) : Prop where
  beside : Beside (.all before) (.fresh before after) after
  originals : ∀ calls : List Call, (∀ call ∈ calls, call.Spares (.all before)) →
    (Part.all before).Reads before (after.runAll calls)
  copies : ∀ calls : List Call, (∀ call ∈ calls, call.Spares (.fresh before after)) →
    (Part.fresh before after).Reads after (after.runAll calls)
  turns : ∀ {mine theirs now}, Interleaved (.all before) (.fresh before after) after mine theirs now →
    now.store.Acyclic → ∀ call : Call,
      (call.Within mine → theirs.Reads now (now.run call)) ∧ (call.Within theirs → mine.Reads now (now.run call))

theorem Effect.separate (effect : Effect (fun _ => False) (fun _ => False) (fun _ => False) before after)
    (formed : before.Formed) (acyclic : before.store.Acyclic) (acyclic' : after.store.Acyclic) :
    Separate before after := by
  have formed' := effect.formed formed
  have start := Part.all_apart formed
  have old := start.spared effect formed fun _ => False.elim
  have kept := start.kept effect formed (fun _ => False.elim) fun _ => False.elim
  have new := Part.fresh_apart effect formed fun _ => id
  have beside : Beside (.all before) (.fresh before after) after := by
    refine ⟨formed', old, new, ?_, ?_⟩
    · exact fun id low opened => Nat.not_lt_of_le opened.1 low
    · exact fun index low opened => Nat.not_lt_of_le opened.1 low
  refine ⟨beside, ?_, ?_, ?_⟩
  · intro calls spares
    obtain ⟨last, more⟩ := runAll_spares old formed' calls spares
    exact (kept.trans more).reads start last formed (formed'.runAll calls) acyclic
  · intro calls spares
    obtain ⟨last, more⟩ := runAll_spares new formed' calls spares
    exact more.reads new last formed' (formed'.runAll calls) acyclic'
  · intro mine theirs now interleaved acyclic call
    have beside := interleaved.beside beside
    exact ⟨beside.reads acyclic, beside.symm.reads acyclic⟩

theorem attach_query (workspace : Workspace) (query : Query) :
    (workspace.attach query).query? workspace.handles.length = some query := by
  have held (kind : QueryList) :
      (workspace.lists kind ++ [query.list kind]).getD (workspace.lists kind).length [] = query.list kind := by
    rw [List.getD_eq_getElem?_getD, List.getElem?_concat_length, Option.getD_some]
  rw [query?, attach, List.getElem?_concat_length, Option.map_some]
  simp only [read, list, held]
  rfl

/-- A copy of a group comes to the clause of the group, a clone of a query reads as the query, and both are separate
from all that there was before. Neither is made only of a group that is nested too deep. -/
theorem copies_separate (formed : before.Formed) (acyclic : before.store.Acyclic) :
    (∀ id : Nat, id < before.store.size →
      (∃ store, before.store.copy id = .ok (before.store.size, store) ∧ before.store.size < store.size ∧
        store.clause? before.store.size = before.store.clause? id ∧
        Separate before { before with store := store }) ∨
      (before.store.copy id = .error .tooDeep ∧
        ∃ forest, before.store.Unfolds (fun _ => True) id forest ∧ stepLimit / 2 < forest.height)) ∧
    ∀ index query, before.query? index = some query →
      (∃ after copy, before.clone index = .ok after ∧ after.query? before.handles.length = some copy ∧
        query.Same copy ∧ Separate before after) ∨
      (before.clone index = .error .tooDeep ∧
        ∃ forest, before.store.Unfolds (fun _ => True) query.root forest ∧ stepLimit / 2 < forest.height) := by
  refine ⟨?_, ?_⟩
  · intro id inside
    obtain ⟨store, copied, made⟩ | deep := Store.copy_cases formed.closed acyclic inside
    · have acyclic' := made.writes.acyclic formed.closed made.ascending acyclic
      exact .inl ⟨store, copied, made.larger, made.clause, (Effect.of_store made.writes).separate formed acyclic acyclic'⟩
    · exact .inr deep
  · intro index query asked
    obtain ⟨handle, found, rfl⟩ := Option.map_eq_some_iff.mp asked
    obtain ⟨store, copied, made⟩ | ⟨failed, deep⟩ :=
      Store.copy_cases formed.closed acyclic (formed.roots index handle found)
    · have cloned : before.clone index =
          .ok (before.attach { before.read handle with store := store, root := before.store.size }) := by
        simp only [clone, found, copied, Except.ok_bind]
        rfl
      have acyclic' := made.writes.acyclic formed.closed made.ascending acyclic
      refine .inl ⟨_, _, cloned, attach_query before _, ?_, (clone_effect cloned).separate formed acyclic acyclic'⟩
      refine ⟨rfl, rfl, fun kind => ?_, rfl, rfl, made.clause⟩
      cases kind <;> rfl
    · refine .inr ⟨?_, deep⟩
      simp only [clone, found, failed]
      rfl

/-- The calls that build a query and a group beside it, with one group nested in both. -/
def sharing : List Call := [.addQuery .empty .sqlite false, .group ⟨.sqlite, .generic⟩ .create,
  .group ⟨.sqlite, .generic⟩ (.nested 1 (.text "and")),
  .group ⟨.sqlite, .generic⟩ (.call 2 .null [.expression (.literal "a")]), .handle 0 (.group 2 (.text "or")),
  .handle 0 (.orderBy (.text "b"))]

theorem copies_separate_sharing : (runAll {} sharing).Formed ∧ (runAll {} sharing).store.Acyclic ∧
    (∃ store, (runAll {} sharing).store.copy 1 = .ok (3, store) ∧
      store.clause? 3 = (runAll {} sharing).store.clause? 1 ∧
      Separate (runAll {} sharing) { runAll {} sharing with store := store }) ∧
    ∃ query after copy, (runAll {} sharing).query? 0 = some query ∧ (runAll {} sharing).clone 0 = .ok after ∧
      after.query? 1 = some copy ∧ query.Same copy ∧ Separate (runAll {} sharing) after := by
  have formed := Formed.empty.runAll sharing
  have ascending : (runAll {} sharing).store.Ascending := by
    intro id junction inner member
    match id, member with
    | 0, member | 1, member =>
      cases member with
      | head => decide
      | tail _ rest => cases rest
    | 2, member =>
      cases member with
      | tail _ rest => cases rest
    | id + 3, member => cases member
  obtain ⟨groups, queries⟩ := copies_separate formed ascending.acyclic
  refine ⟨formed, ascending.acyclic, ?_, ?_⟩
  · obtain ⟨store, copied, _, clause, separate⟩ | ⟨failed, _⟩ := groups 1 (by decide)
    · exact ⟨store, copied, clause, separate⟩
    · cases failed
  · obtain ⟨after, copy, cloned, held, same, separate⟩ | ⟨failed, _⟩ := queries 0 _ rfl
    · exact ⟨_, after, copy, rfl, cloned, held, same, separate⟩
    · cases failed

end Workspace

end DataGrid
