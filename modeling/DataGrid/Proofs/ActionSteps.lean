import DataGrid.Error

/-! Taking a computation apart into its steps: what a run that came through went through, and what every run keeps. -/

namespace DataGrid

theorem Except.bind_ok {ε α β : Type} {first : Except ε α} {next : α → Except ε β} {result : β}
    (done : first >>= next = .ok result) : ∃ value, first = .ok value ∧ next value = .ok result := by
  cases first with
  | error failure => cases done
  | ok value => exact ⟨value, rfl, done⟩

@[simp] theorem Except.ok_bind {ε α β : Type} (value : α) (next : α → Except ε β) :
    Except.ok value >>= next = next value := rfl

theorem Except.map_ok {ε α β : Type} {first : Except ε α} {f : α → β} {result : β}
    (done : first.map f = .ok result) : ∃ value, first = .ok value ∧ result = f value := by
  cases first with
  | error failure => cases done
  | ok value =>
    cases done
    exact ⟨value, rfl, rfl⟩

theorem Except.exists_map_ok {ε α β : Type} {first : Except ε α} (f : α → β) :
    (∃ result, first.map f = .ok result) ↔ ∃ value, first = .ok value := by
  cases first with
  | error => exact ⟨nofun, nofun⟩
  | ok value => exact ⟨fun _ => ⟨value, rfl⟩, fun _ => ⟨f value, rfl⟩⟩

theorem Except.ok_of_isOk {ε α : Type} {result : Except ε α} (done : result.isOk = true) :
    ∃ value, result = .ok value := by
  cases result with
  | error failure => cases done
  | ok value => exact ⟨value, rfl⟩

theorem Except.mapM_mem {ε α β : Type} {step : α → Except ε β} {items : List α} {results : List β}
    (done : items.mapM step = .ok results) : ∀ result ∈ results, ∃ item ∈ items, step item = .ok result := by
  induction items generalizing results with
  | nil =>
    cases done
    intro result member
    cases member
  | cons head rest ih =>
    rw [List.mapM_cons] at done
    obtain ⟨first, found, done⟩ := Except.bind_ok done
    obtain ⟨others, more, same⟩ := Except.bind_ok done
    cases same
    intro result member
    rcases List.mem_cons.mp member with rfl | later
    · exact ⟨head, .head _, found⟩
    · obtain ⟨item, among, done⟩ := ih more result later
      exact ⟨item, .tail _ among, done⟩

theorem Except.mapM_each {ε α β : Type} {step : α → Except ε β} {items : List α} {results : List β}
    (done : items.mapM step = .ok results) : ∀ item ∈ items, ∃ result, step item = .ok result := by
  induction items generalizing results with
  | nil => simp
  | cons head rest ih =>
    rw [List.mapM_cons] at done
    obtain ⟨first, found, done⟩ := Except.bind_ok done
    obtain ⟨others, more, _⟩ := Except.bind_ok done
    exact List.forall_mem_cons.mpr ⟨⟨first, found⟩, ih more⟩

theorem Except.mapM_ok_iff {ε α β : Type} {step : α → Except ε β} {items : List α} :
    (∃ results, items.mapM step = .ok results) ↔ ∀ item ∈ items, ∃ result, step item = .ok result := by
  refine ⟨fun ⟨_, done⟩ => mapM_each done, fun each => ?_⟩
  induction items with
  | nil => exact ⟨[], rfl⟩
  | cons head rest ih =>
    obtain ⟨⟨first, found⟩, others⟩ := List.forall_mem_cons.mp each
    obtain ⟨results, done⟩ := ih others
    exact ⟨first :: results, by rw [List.mapM_cons, found, done]; rfl⟩

theorem Except.mapM_map {ε α β : Type} {step : α → Except ε β} {items : List α} {results : List β}
    (done : items.mapM step = .ok results) : items.map step = results.map .ok := by
  induction items generalizing results with
  | nil =>
    cases done
    rfl
  | cons head rest ih =>
    rw [List.mapM_cons] at done
    obtain ⟨first, found, done⟩ := Except.bind_ok done
    obtain ⟨others, more, same⟩ := Except.bind_ok done
    cases same
    rw [List.map_cons, List.map_cons, found, ih more]

namespace Action

variable {σ α β : Type}

theorem bind_ok {first : Action σ α} {next : α → Action σ β} {state final : σ} {result : β}
    (done : (first >>= next) state = (.ok result, final)) :
    ∃ value middle, first state = (.ok value, middle) ∧ next value middle = (.ok result, final) := by
  change (do
    let found ← first
    ExceptT.bindCont next found : StateM σ (Except Error β)) state = _ at done
  cases ran : first state with
  | mk found middle =>
    change (ExceptT.bindCont next (first state).1 : StateM σ (Except Error β)) (first state).2 = _ at done
    rw [ran] at done
    cases found with
    | error failure => cases done
    | ok value => exact ⟨value, middle, rfl, done⟩

theorem bind_eq {first : Action σ α} {next : α → Action σ β} {state middle : σ} {value : α}
    (done : first state = (.ok value, middle)) : (first >>= next) state = next value middle := by
  change (ExceptT.bindCont next (first state).1 : StateM σ (Except Error β)) (first state).2 = _
  rw [done]
  rfl

theorem bind_error {first : Action σ α} {next : α → Action σ β} {state middle : σ} {failure : Error}
    (failed : first state = (.error failure, middle)) : (first >>= next) state = (.error failure, middle) := by
  change (ExceptT.bindCont next (first state).1 : StateM σ (Except Error β)) (first state).2 = _
  rw [failed]
  rfl

theorem ran_of_isOk {outcome : Except Error α × σ} (done : outcome.1.isOk = true) :
    ∃ result, outcome = (.ok result, outcome.2) := by
  obtain ⟨found, final⟩ := outcome
  obtain ⟨result, rfl⟩ := Except.ok_of_isOk done
  exact ⟨result, rfl⟩

theorem lift_ok {step : Except Error α} {state final : σ} {result : α}
    (done : (liftM step : Action σ α) state = (.ok result, final)) : step = .ok result ∧ state = final := by
  cases done
  exact ⟨rfl, rfl⟩

theorem on_eq {τ : Type} {get : σ → τ} {set : τ → σ → σ} {step : Action τ α} {state : σ} {found : Except Error α}
    {part : τ} (ran : step (get state) = (found, part)) : Action.on get set step state = (found, set part state) := by
  change ((step (get state)).1, set (step (get state)).2 state) = _
  rw [ran]

theorem on_ok {τ : Type} {get : σ → τ} {set : τ → σ → σ} {step : Action τ α} {state final : σ} {result : α}
    (done : Action.on get set step state = (.ok result, final)) :
    ∃ part, step (get state) = (.ok result, part) ∧ final = set part state := by
  have same : Action.on get set step state = ((step (get state)).1, set (step (get state)).2 state) := rfl
  rw [same] at done
  cases ran : step (get state) with
  | mk found part =>
    rw [ran] at done
    cases done
    exact ⟨part, rfl, rfl⟩

end Action

/-- A step keeps what held before it, however it ends. -/
def Action.Stays {σ α : Type} (holds : σ → Prop) (step : Action σ α) : Prop :=
  ∀ before, holds before → holds (step before).2

namespace Action.Stays

variable {σ τ α β : Type} {holds : σ → Prop}

theorem pure (value : α) : Stays holds (Pure.pure value) := fun _ held => held

theorem bind {first : Action σ α} {next : α → Action σ β} (one : Stays holds first)
    (steps : ∀ value, Stays holds (next value)) : Stays holds (first >>= next) := by
  intro before held
  have kept := one before held
  change holds (ExceptT.bindCont next (first before).1 (first before).2 : Except Error β × σ).2
  generalize first before = outcome at kept
  cases outcome with
  | mk found middle =>
    cases found with
    | error failure => exact kept
    | ok value => exact steps value middle kept

theorem read {next : σ → Action σ β} (steps : ∀ state, holds state → Stays holds (next state)) :
    Stays holds (MonadState.get >>= next) := fun before held => steps before held before held

theorem ask {outcome : Except Error α} {next : α → Action σ β}
    (steps : ∀ value, outcome = .ok value → Stays holds (next value)) : Stays holds (liftM outcome >>= next) := by
  intro before held
  cases outcome with
  | error failure => exact held
  | ok value => exact steps value rfl before held

theorem set {state : σ} (held : holds state) : Stays holds (MonadStateOf.set state : Action σ PUnit) := fun _ _ => held

theorem modify {change : σ → σ} (steps : ∀ state, holds state → holds (change state)) :
    Stays holds (MonadState.modifyGet fun state => (PUnit.unit, change state) : Action σ PUnit) := steps

theorem forM {step : α → Action σ PUnit} (items : List α) (steps : ∀ item ∈ items, Stays holds (step item)) :
    Stays holds (items.forM step) := by
  induction items with
  | nil => exact pure _
  | cons head rest ih =>
    rw [List.forM]
    exact (steps head (.head _)).bind fun _ => ih fun item member => steps item (.tail _ member)

theorem lift (outcome : Except Error α) : Stays holds (liftM outcome) := fun _ held => held

theorem raise (failure : Error) : Stays holds (throw failure : Action σ α) := fun _ held => held

/-- A step on a part keeps what goes by the rest. -/
theorem on {get : σ → τ} {set : τ → σ → σ} {step : Action τ α}
    (whole : ∀ state part, holds state → holds (set part state)) : Stays holds (Action.on get set step) :=
  fun before held => whole before _ held

/-- A step on a part keeps what the part keeps. -/
theorem onPart {inner : τ → Prop} {get : σ → τ} {set : τ → σ → σ} {step : Action τ α} (stays : Stays inner step)
    (part : ∀ state, holds state → inner (get state))
    (whole : ∀ state part, holds state → inner part → holds (set part state)) : Stays holds (Action.on get set step) :=
  fun before held => whole before _ held (stays _ (part before held))

theorem after {step : Action σ α} (stays : Stays holds step) {before after : σ} {result : Except Error α}
    (held : holds before) (ran : step before = (result, after)) : holds after := by
  have kept := stays before held
  rwa [ran] at kept

end Action.Stays

end DataGrid
