import DataGrid.Override
import DataGrid.Proofs.HandleCondition
import DataGrid.Proofs.ScriptTrees

/-! How the conditions of a query grow. Whatever else a step does to it, the base stays as it is and the root
group gets a forest appended; a script of calls on the query appends what its calls ask for. -/

namespace DataGrid

open Sql

namespace Query

/-- A step keeps the base of a query and appends a forest to its root. -/
structure Grows (before after : Query) (forest : Forest) : Prop where
  base : after.base = before.base
  adapter : after.adapter = before.adapter
  root : after.root = before.root
  store : Store.Appends before.root before.store after.store forest

variable {before between after : Query} {first second forest : Forest}

theorem Grows.refl (query : Query) : Grows query query [] := ⟨rfl, rfl, rfl, .refl _ _⟩

theorem Grows.formed (step : Grows before after forest) (formed : before.Formed) : after.Formed where
  closed := step.store.closed formed.closed
  root := step.root ▸ Nat.lt_of_lt_of_le formed.root step.store.size

theorem Grows.trans (formed : before.Formed) (one : Grows before between first) (other : Grows between after second) :
    Grows before after (first ++ second) := by
  refine ⟨other.base.trans one.base, other.adapter.trans one.adapter, other.root.trans one.root, ?_⟩
  exact one.store.trans formed.root (one.root ▸ other.store)

theorem grows_of_store {store : Store} (appended : Store.Appends before.root before.store store forest) :
    Grows before { before with store := store } forest :=
  ⟨rfl, rfl, rfl, appended⟩

/-- A query that may differ in other parts than its base and its groups. -/
structure Alike (before after : Query) : Prop where
  base : after.base = before.base
  adapter : after.adapter = before.adapter
  root : after.root = before.root
  store : after.store = before.store

theorem Alike.refl (query : Query) : Alike query query := ⟨rfl, rfl, rfl, rfl⟩

theorem Alike.trans (one : Alike before between) (other : Alike between after) : Alike before after :=
  ⟨other.base.trans one.base, other.adapter.trans one.adapter, other.root.trans one.root, other.store.trans one.store⟩

theorem Alike.grows (alike : Alike before after) : Grows before after [] := by
  refine ⟨alike.base, alike.adapter, alike.root, ?_⟩
  rw [alike.store]
  exact .refl _ _

theorem leftJoin_alike (query : Query) (target : TableName) (on : Cond) : Alike query (query.leftJoin target on).2 := by
  unfold leftJoin
  split <;> exact ⟨rfl, rfl, rfl, rfl⟩

private theorem callRoot_grows {method : GroupMethod} {arguments : List Argument} (formed : before.Formed)
    (called : before.callRoot method arguments = .ok after) :
    ∃ entry, method.addition before.adapter arguments = .ok entry ∧ Grows before after [entry] := by
  obtain ⟨store, ran, same⟩ := Except.bind_ok called
  cases same
  obtain ⟨entry, added, appended⟩ := Store.call_appends formed.root ran
  exact ⟨entry, added, grows_of_store appended⟩

end Query

/-- The method of the root group that a method of the query calls, if it calls one. -/
def QueryMethod.groupMethod? : QueryMethod → Option GroupMethod
  | .compare => some .compare
  | .raw => some .raw
  | _ => none

def QueryMethod.additions (method : QueryMethod) (adapter : Adapter) (arguments : List Argument) :
    Except Error Forest :=
  match method with
  | .compare => return [← GroupMethod.compare.addition adapter arguments]
  | .raw => return [← GroupMethod.raw.addition adapter arguments]
  | _ => .ok []

namespace QueryStep

def additions (adapter : Adapter) : QueryStep → Except Error Forest
  | .call method arguments => method.additions adapter arguments
  | .nested word steps => do
    let junction ← word.toJunction
    return [(junction, .group (← GroupStep.additions adapter steps))]

/-- What a script adds to the root of a query. -/
def allAdditions (adapter : Adapter) (steps : List QueryStep) : Except Error Forest :=
  return (← steps.mapM (additions adapter)).flatten

end QueryStep

namespace Query

variable {before after : Query}

/-- A call grows the store by the call of a group method on the root, or leaves base and groups as they are. -/
theorem call_cases {method : QueryMethod} {arguments : List Argument} {answer : Value}
    (called : before.call method arguments = .ok (answer, after)) :
    (∃ inner, method.groupMethod? = some inner ∧ before.callRoot inner arguments = .ok after) ∨
      (method.groupMethod? = none ∧ Alike before after) := by
  cases method with
  | compare | raw =>
    obtain ⟨query, called, same⟩ := Except.bind_ok called
    cases same
    exact .inl ⟨_, rfl, called⟩
  | leftJoin =>
    refine .inr ⟨rfl, ?_⟩
    obtain ⟨_, _, called⟩ := Except.bind_ok called
    obtain ⟨table, _, called⟩ := Except.bind_ok called
    obtain ⟨⟨added, query⟩, joined, same⟩ := Except.bind_ok called
    cases same
    unfold leftJoinNamed at joined
    split at joined
    · cases joined
      exact .refl _
    · obtain ⟨_, _, joined⟩ := Except.bind_ok joined
      obtain ⟨_, _, same⟩ := Except.bind_ok joined
      have moved : _ = after := congrArg Prod.snd (Except.ok.inj same)
      rw [← moved]
      exact leftJoin_alike ..
  | hasJoin =>
    refine .inr ⟨rfl, ?_⟩
    obtain ⟨_, _, called⟩ := Except.bind_ok called
    split at called
    all_goals
      split at called
      · cases called
      · cases called
        exact .refl _
  | addItem =>
    refine .inr ⟨rfl, ?_⟩
    obtain ⟨_, _, called⟩ := Except.bind_ok called
    split at called <;> cases called <;> exact ⟨rfl, rfl, rfl, rfl⟩
  | orderByRaw =>
    refine .inr ⟨rfl, ?_⟩
    obtain ⟨_, _, called⟩ := Except.bind_ok called
    obtain ⟨query, ordered, same⟩ := Except.bind_ok called
    cases same
    obtain ⟨places, _, ordered⟩ := Except.bind_ok ordered
    split at ordered
    · obtain ⟨content, _, same⟩ := Except.bind_ok ordered
      cases same
      exact ⟨rfl, rfl, rfl, rfl⟩
    · split at ordered <;> cases ordered <;> exact ⟨rfl, rfl, rfl, rfl⟩
  | skip | take =>
    refine .inr ⟨rfl, ?_⟩
    obtain ⟨_, _, same⟩ := Except.bind_ok called
    cases same
    exact ⟨rfl, rfl, rfl, rfl⟩

theorem call_grows {method : QueryMethod} {arguments : List Argument} {answer : Value} (formed : before.Formed)
    (called : before.call method arguments = .ok (answer, after)) :
    ∃ forest, method.additions before.adapter arguments = .ok forest ∧ Grows before after forest := by
  obtain ⟨inner, chosen, called⟩ | ⟨none, alike⟩ := call_cases called
  · obtain ⟨entry, added, grown⟩ := callRoot_grows formed called
    refine ⟨[entry], ?_, grown⟩
    cases method <;> cases chosen <;>
    · simp only [QueryMethod.additions, added, Except.ok_bind]
      rfl
  · cases method with
    | compare | raw => cases none
    | _ => exact ⟨[], rfl, alike.grows⟩

end Query

namespace QueryStep

variable {before after : Query}

theorem run_grows {step : QueryStep} {answer : Value} (formed : before.Formed)
    (ran : step.run before = (.ok answer, after)) :
    ∃ forest, step.additions before.adapter = .ok forest ∧ before.Grows after forest := by
  cases step with
  | call method arguments =>
    cases called : before.call method arguments with
    | error failure =>
      simp only [run, called] at ran
      cases ran
    | ok pair =>
      simp only [run, called] at ran
      cases ran
      exact Query.call_grows formed called
  | nested word steps =>
    cases opened : before.store.nestedNamed before.root word with
    | error failure =>
      simp only [run, opened] at ran
      cases ran
    | ok pair =>
      simp only [run, opened] at ran
      obtain ⟨junction, named, same⟩ := Except.bind_ok opened
      cases same
      obtain ⟨_, _, wrote, ran⟩ := Action.bind_ok ran
      cases ran
      obtain ⟨grown, filled, rfl⟩ := Action.on_ok wrote
      have later : before.store.size < (before.store.nested before.root junction).2.size := by simp [Store.nested]
      obtain ⟨forest, read, appended⟩ := GroupStep.runAll_appends later filled
      refine ⟨[(junction, .group forest)], ?_, Query.grows_of_store (appended.nested formed.root junction)⟩
      simp only [additions, named, read, Except.ok_bind]
      rfl

/-- A script that runs through appends what its steps ask for, in their order. -/
theorem runAll_grows {steps : List QueryStep} {result : PUnit} (formed : before.Formed)
    (ran : runAll steps before = (.ok result, after)) :
    ∃ forest, allAdditions before.adapter steps = .ok forest ∧ before.Grows after forest := by
  induction steps generalizing before with
  | nil =>
    cases ran
    exact ⟨[], rfl, .refl _⟩
  | cons step rest ih =>
    obtain ⟨_, middle, first, others⟩ := Action.bind_ok ran
    obtain ⟨answer, _, first, done⟩ := Action.bind_ok first
    cases done
    obtain ⟨forest, read, one⟩ := run_grows formed first
    obtain ⟨later, more, all⟩ := ih (one.formed formed) others
    rw [one.adapter] at more
    obtain ⟨forests, listed, same⟩ := Except.bind_ok more
    cases same
    refine ⟨forest ++ forests.flatten, ?_, one.trans formed all⟩
    rw [allAdditions, List.mapM_cons, read, Except.ok_bind, listed]
    rfl

end QueryStep

end DataGrid
