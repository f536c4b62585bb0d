import Mathlib.Data.List.Forall2
import DataGrid.Proofs.ActionSteps

/-! Two runs side by side: the steps that they are made of. Outcomes are compared failures included; actions are
compared where both of them come through, or however they end. -/

namespace DataGrid

theorem Option.Rel.imp {α β : Type} {relation other : α → β → Prop} {first : Option α} {second : Option β}
    (values : Option.Rel relation first second)
    (weaker : ∀ a b, first = some a → second = some b → relation a b → other a b) : Option.Rel other first second := by
  cases values with
  | none => exact .none
  | some both => exact .some (weaker _ _ rfl rfl both)

/-- Outcomes that fail in the same way, or give related values. -/
inductive Except.Rel {ε α β : Type} (relation : α → β → Prop) : Except ε α → Except ε β → Prop where
  | ok {first second} (values : relation first second) : Rel relation (.ok first) (.ok second)
  | error (failure : ε) : Rel relation (.error failure) (.error failure)

namespace Except

variable {ε α β γ δ : Type} {relation : α → β → Prop} {later : γ → δ → Prop}

theorem Rel.refl {relation : α → α → Prop} (same : ∀ value, relation value value) (outcome : Except ε α) :
    Rel relation outcome outcome := by
  cases outcome with
  | error failure => exact .error failure
  | ok value => exact .ok (same value)

theorem Rel.imp {other : α → β → Prop} (weaker : ∀ a b, relation a b → other a b) {first : Except ε α}
    {second : Except ε β} (outcomes : Rel relation first second) : Rel other first second := by
  cases outcomes with
  | error failure => exact .error failure
  | ok values => exact .ok (weaker _ _ values)

theorem Rel.eq {first second : Except ε α} (outcomes : Rel Eq first second) : first = second := by
  cases outcomes with
  | ok values => rw [values]
  | error failure => rfl

theorem Rel.bind {first : Except ε α} {second : Except ε β} {next : α → Except ε γ} {other : β → Except ε δ}
    (outcomes : Rel relation first second)
    (steps : ∀ a b, relation a b → Rel later (next a) (other b)) : Rel later (first >>= next) (second >>= other) := by
  cases outcomes with
  | error failure => exact .error failure
  | ok values => exact steps _ _ values

theorem Rel.mapM {step : α → Except ε γ} {other : β → Except ε δ} {first : List α} {second : List β}
    (items : List.Forall₂ relation first second) (steps : ∀ a b, relation a b → Rel later (step a) (other b)) :
    Rel (List.Forall₂ later) (first.mapM step) (second.mapM other) := by
  induction items with
  | nil => exact .ok .nil
  | cons head _ ih =>
    rw [List.mapM_cons, List.mapM_cons]
    refine (steps _ _ head).bind fun _ _ one => ih.bind fun _ _ more => .ok (.cons one more)

theorem mapM_eq {step : α → Except ε γ} {other : β → Except ε γ} {first : List α} {second : List β}
    (items : List.Forall₂ relation first second) (steps : ∀ a b, relation a b → step a = other b) :
    first.mapM step = second.mapM other := by
  induction items with
  | nil => rfl
  | cons head _ ih => rw [List.mapM_cons, List.mapM_cons, steps _ _ head, ih]

theorem allM_eq {test : α → Except ε Bool} {other : β → Except ε Bool} {first : List α} {second : List β}
    (items : List.Forall₂ relation first second) (steps : ∀ a b, relation a b → test a = other b) :
    first.allM test = second.allM other := by
  induction items with
  | nil => rfl
  | cons head _ ih => rw [List.allM, List.allM, steps _ _ head, ih]

end Except

/-- Two actions keep states related and give related answers, whenever both come through. -/
def Action.Both {σ α β : Type} (states : σ → σ → Prop) (answers : α → β → Prop) (first : Action σ α)
    (second : Action σ β) : Prop :=
  ∀ before before' value value' after after', states before before' →
    first before = (.ok value, after) → second before' = (.ok value', after') →
      states after after' ∧ answers value value'

namespace Action.Both

variable {σ τ α β γ δ : Type} {states : σ → σ → Prop} {answers : α → β → Prop} {later : γ → δ → Prop}

theorem pure {value : α} {other : β} (related : answers value other) :
    Both states answers (Pure.pure value) (Pure.pure other) := by
  rintro before before' _ _ _ _ alike ⟨⟩ ⟨⟩
  exact ⟨alike, related⟩

theorem bind {first : Action σ α} {second : Action σ β} {next : α → Action σ γ} {other : β → Action σ δ}
    (one : Both states answers first second)
    (steps : ∀ a b, answers a b → Both states later (next a) (other b)) :
    Both states later (first >>= next) (second >>= other) := by
  intro before before' value value' after after' alike ran ran'
  obtain ⟨found, middle, start, rest⟩ := Action.bind_ok ran
  obtain ⟨found', middle', start', rest'⟩ := Action.bind_ok ran'
  obtain ⟨between, values⟩ := one _ _ _ _ _ _ alike start start'
  exact steps _ _ values _ _ _ _ _ _ between rest rest'

theorem get : Both states states MonadState.get MonadState.get := by
  rintro before before' _ _ _ _ alike ⟨⟩ ⟨⟩
  exact ⟨alike, alike⟩

theorem set {first second : σ} (related : states first second) :
    Both states (fun _ _ => True) (MonadStateOf.set first : Action σ PUnit) (MonadStateOf.set second) := by
  rintro before before' _ _ _ _ _ ⟨⟩ ⟨⟩
  exact ⟨related, trivial⟩

theorem modify {change other : σ → σ} (steps : ∀ a b, states a b → states (change a) (other b)) :
    Both states (fun _ _ => True) (MonadState.modifyGet fun state => (PUnit.unit, change state) : Action σ PUnit)
      (MonadState.modifyGet fun state => (PUnit.unit, other state)) := by
  rintro before before' _ _ _ _ alike ⟨⟩ ⟨⟩
  exact ⟨steps _ _ alike, trivial⟩

theorem lift {first : Except Error α} {second : Except Error β}
    (values : ∀ a b, first = .ok a → second = .ok b → answers a b) :
    Both states answers (liftM first) (liftM second) := by
  intro before before' value value' after after' alike ran ran'
  obtain ⟨found, rfl⟩ := Action.lift_ok ran
  obtain ⟨found', rfl⟩ := Action.lift_ok ran'
  exact ⟨alike, values _ _ found found'⟩

theorem forM {relation : γ → δ → Prop} {step : γ → Action σ PUnit} {other : δ → Action σ PUnit}
    {first : List γ} {second : List δ} (items : List.Forall₂ relation first second)
    (steps : ∀ a b, relation a b → Both states (fun _ _ => True) (step a) (other b)) :
    Both states (fun _ _ => True) (first.forM step) (second.forM other) := by
  induction items with
  | nil => exact pure trivial
  | cons head _ ih =>
    rw [List.forM, List.forM]
    exact (steps _ _ head).bind fun _ _ _ => ih

theorem on {get : σ → τ} {set : τ → σ → σ} {inner : τ → τ → Prop} {first : Action τ α} {second : Action τ β}
    (parts : ∀ a b, states a b → inner (get a) (get b))
    (whole : ∀ a b, states a b → ∀ c d, inner c d → states (set c a) (set d b))
    (steps : Both inner answers first second) :
    Both states answers (Action.on get set first) (Action.on get set second) := by
  intro before before' value value' after after' alike ran ran'
  obtain ⟨part, done, rfl⟩ := Action.on_ok ran
  obtain ⟨part', done', rfl⟩ := Action.on_ok ran'
  obtain ⟨related, values⟩ := steps _ _ _ _ _ _ (parts _ _ alike) done done'
  exact ⟨whole _ _ alike _ _ related, values⟩

end Action.Both

/-- Two actions keep states related, and both fail in the same way or give related answers. -/
def Action.Mirrors {σ α β : Type} (states : σ → σ → Prop) (answers : α → β → Prop) (first : Action σ α)
    (second : Action σ β) : Prop :=
  ∀ before before', states before before' →
    Except.Rel answers (first before).1 (second before').1 ∧ states (first before).2 (second before').2

namespace Action.Mirrors

variable {σ τ α β γ δ : Type} {states : σ → σ → Prop} {answers : α → β → Prop} {later : γ → δ → Prop}

theorem pure {value : α} {other : β} (related : answers value other) :
    Mirrors states answers (Pure.pure value) (Pure.pure other) := fun _ _ alike => ⟨.ok related, alike⟩

theorem bind {first : Action σ α} {second : Action σ β} {next : α → Action σ γ} {other : β → Action σ δ}
    (one : Mirrors states answers first second)
    (steps : ∀ a b, answers a b → Mirrors states later (next a) (other b)) :
    Mirrors states later (first >>= next) (second >>= other) := by
  intro before before' alike
  obtain ⟨outcomes, between⟩ := one before before' alike
  cases ran : first before with
  | mk found middle =>
    cases ran' : second before' with
    | mk found' middle' =>
      rw [ran, ran'] at outcomes between
      cases outcomes with
      | error failure =>
        rw [Action.bind_error ran, Action.bind_error ran']
        exact ⟨.error failure, between⟩
      | ok values =>
        rw [Action.bind_eq ran, Action.bind_eq ran']
        exact steps _ _ values middle middle' between

theorem read {next : σ → Action σ γ} {other : σ → Action σ δ}
    (steps : ∀ a b, states a b → Mirrors states later (next a) (other b)) :
    Mirrors states later (MonadState.get >>= next) (MonadState.get >>= other) :=
  fun before before' alike => steps before before' alike before before' alike

theorem modify {change other : σ → σ} (steps : ∀ a b, states a b → states (change a) (other b)) :
    Mirrors states Eq (MonadState.modifyGet fun state => (PUnit.unit, change state) : Action σ PUnit)
      (MonadState.modifyGet fun state => (PUnit.unit, other state)) :=
  fun before before' alike => ⟨.ok rfl, steps before before' alike⟩

theorem set {first second : σ} (related : states first second) :
    Mirrors states Eq (MonadStateOf.set first : Action σ PUnit) (MonadStateOf.set second) :=
  fun _ _ _ => ⟨.ok rfl, related⟩

theorem raise (failure : Error) :
    Mirrors states answers (throw failure : Action σ α) (throw failure : Action σ β) :=
  fun _ _ alike => ⟨.error failure, alike⟩

theorem lift {first : Except Error α} {second : Except Error β} (outcomes : Except.Rel answers first second) :
    Mirrors states answers (liftM first) (liftM second) := fun _ _ alike => ⟨outcomes, alike⟩

theorem ask {first : Except Error α} {second : Except Error β} {next : α → Action σ γ} {other : β → Action σ δ}
    (outcomes : Except.Rel answers first second)
    (steps : ∀ a b, answers a b → Mirrors states later (next a) (other b)) :
    Mirrors states later (liftM first >>= next) (liftM second >>= other) := (lift outcomes).bind steps

/-- The same step on a part that both states have in common. -/
theorem on {get : σ → τ} {set : τ → σ → σ} {step : Action τ α} (same : ∀ a b, states a b → get b = get a)
    (whole : ∀ a b part, states a b → states (set part a) (set part b)) :
    Mirrors states Eq (Action.on get set step) (Action.on get set step) := by
  intro before before' alike
  change Except.Rel Eq (step (get before)).1 (step (get before')).1 ∧
    states (set (step (get before)).2 before) (set (step (get before')).2 before')
  rw [same before before' alike]
  exact ⟨.refl (fun _ => rfl) _, whole _ _ _ alike⟩

end Action.Mirrors

end DataGrid
