import DataGrid.Proofs.MergedFields
import DataGrid.Proofs.ValueTexts

/-! Equality of values. A value equals itself, unless something in it is not a number or an opaque value, and two values
can be compared unless a signaling number is in one of them. -/

namespace DataGrid.Value

variable {value : Value} {failure : Error}

/-- Whether a value differs from itself, as far as can be told from outside: it is not a number, or opaque. -/
def Singular (value : Value) : Prop := value.magnitude? = some .nan ∨ value = .foreign

/-- Whether no record in a value has two fields of one name. -/
def Keyed (value : Value) : Prop :=
  ∀ fields depth, Inside (.object fields) depth value → (fields.map (·.1)).Nodup

theorem Keyed.part {part : Value} (keyed : value.Keyed) (member : part ∈ value.parts) : part.Keyed :=
  fun fields depth inside => keyed fields (depth + 1) (.inner member inside)

/-! ### Equal to itself -/

theorem Magnitude.order_self {magnitude : Magnitude} (number : magnitude ≠ .nan) :
    magnitude.order magnitude = some .eq := by
  cases magnitude with
  | nan => exact absurd rfl number
  | infinite negative => simp [Magnitude.order]
  | quotient num den => simp [Magnitude.order]
  | scaled negative c e =>
    have same : Decimal.compareMagnitudes c e c e = .eq := by simp [Decimal.compareMagnitudes]
    simp [Magnitude.order, same]

theorem numberOrder_self {magnitude : Magnitude} (measured : value.magnitude? = some magnitude)
    (number : magnitude ≠ .nan) : numberOrder? false value value = .ok (some (some .eq)) := by
  have quiet : value.isSignaling = false := by
    cases value with
    | decimal d =>
      cases d with
      | nan => cases measured; exact absurd rfl number
      | _ => rfl
    | _ => rfl
  rw [numberOrder?, measured]
  simp [quiet, Magnitude.order_self number]

theorem equal_number {magnitude : Magnitude} (measured : value.magnitude? = some magnitude)
    (ordinary : ¬ value.Singular) : equal value value = .ok true := by
  have order := numberOrder_self measured fun none => ordinary (.inl (none ▸ measured))
  cases value with
  | bool | int | float | decimal =>
    simp only [equal, equalScalars, order]
    rfl
  | _ => cases measured

theorem equalItems_self {items : List Value} (each : ∀ item ∈ items, equal item item = .ok true) :
    equalItems items items = .ok true := by
  induction items with
  | nil => rw [equalItems]
  | cons item rest ih =>
    obtain ⟨one, others⟩ := List.forall_mem_cons.mp each
    rw [equalItems, one]
    exact ih others

theorem equalCells_self {cells : List (String × Value)} (each : ∀ cell ∈ cells, equal cell.2 cell.2 = .ok true) :
    equalCells cells cells = .ok true := by
  induction cells with
  | nil => rw [equalCells]
  | cons cell rest ih =>
    obtain ⟨one, others⟩ := List.forall_mem_cons.mp each
    rw [equalCells, one]
    exact ih others

theorem equalFields_self {fields all : List (String × Value)}
    (each : ∀ field ∈ fields, field? all field.1 = some field.2 ∧ equal field.2 field.2 = .ok true) :
    equalFields fields all = .ok true := by
  induction fields with
  | nil => rw [equalFields]
  | cons field rest ih =>
    obtain ⟨⟨found, one⟩, others⟩ := List.forall_mem_cons.mp each
    rw [equalFields, found]
    dsimp only
    rw [one]
    exact ih others


/-- A value equals itself, unless something in it differs from itself. -/
theorem equal_self (keyed : value.Keyed) (ordinary : ¬ value.Holds Singular) : equal value value = .ok true := by
  induction value using partsInduction with
  | step value ih =>
    have each : ∀ part ∈ value.parts, equal part part = .ok true := fun part member =>
      ih part member (keyed.part member) fun holds => ordinary (holds.outer member)
    have own : ¬ value.Singular := fun singular => ordinary (.self singular)
    cases value with
    | null | text | bytes | uuid => simp [equal, equalScalars]
    | moment point => simp [equal, equalScalars, Moment.same, Moment.ordered]
    | bool => exact equal_number rfl own
    | int => exact equal_number rfl own
    | float x => cases x <;> exact equal_number rfl own
    | decimal d => cases d <;> exact equal_number rfl own
    | foreign => exact absurd (.inr rfl) own
    | list items =>
      rw [equal, if_pos rfl]
      exact equalItems_self each
    | object fields =>
      rw [equal, if_pos rfl]
      refine equalFields_self fun field member => ⟨?_, each field.2 (List.mem_map_of_mem member)⟩
      exact field?_of_mem (keyed fields 0 .self) member
    | row cells =>
      rw [equal]
      exact equalCells_self fun cell member => each cell.2 (List.mem_map_of_mem member)

/-! ### Refused comparisons -/

theorem equalItems_error {xs ys : List Value} (failed : equalItems xs ys = .error failure) :
    ∃ x ∈ xs, ∃ y ∈ ys, equal x y = .error failure := by
  induction xs generalizing ys with
  | nil => cases ys <;> simp [equalItems] at failed
  | cons x xs ih =>
    cases ys with
    | nil => simp [equalItems] at failed
    | cons y ys =>
      rw [equalItems] at failed
      cases compared : equal x y with
      | error refused =>
        rw [compared] at failed
        cases failed
        exact ⟨x, .head _, y, .head _, compared⟩
      | ok same =>
        rw [compared] at failed
        cases same with
        | false => cases failed
        | true =>
          obtain ⟨x', member, y', member', refused⟩ := ih failed
          exact ⟨x', .tail _ member, y', .tail _ member', refused⟩

theorem equalCells_error {xs ys : List (String × Value)} (failed : equalCells xs ys = .error failure) :
    ∃ x ∈ xs, ∃ y ∈ ys, equal x.2 y.2 = .error failure := by
  induction xs generalizing ys with
  | nil => cases ys <;> simp [equalCells] at failed
  | cons x xs ih =>
    cases ys with
    | nil => simp [equalCells] at failed
    | cons y ys =>
      rw [equalCells] at failed
      cases compared : equal x.2 y.2 with
      | error refused =>
        rw [compared] at failed
        cases failed
        exact ⟨x, .head _, y, .head _, compared⟩
      | ok same =>
        rw [compared] at failed
        cases same with
        | false => cases failed
        | true =>
          obtain ⟨x', member, y', member', refused⟩ := ih failed
          exact ⟨x', .tail _ member, y', .tail _ member', refused⟩

theorem equalFields_error {xs ys : List (String × Value)} (failed : equalFields xs ys = .error failure) :
    ∃ x ∈ xs, ∃ y ∈ ys, equal x.2 y.2 = .error failure := by
  induction xs with
  | nil => simp [equalFields] at failed
  | cons x xs ih =>
    rw [equalFields] at failed
    cases found : field? ys x.1 with
    | none =>
      rw [found] at failed
      cases failed
    | some y =>
      rw [found] at failed
      dsimp only at failed
      cases compared : equal x.2 y with
      | error refused =>
        rw [compared] at failed
        cases failed
        exact ⟨x, .head _, (x.1, y), mem_of_field? found, compared⟩
      | ok same =>
        rw [compared] at failed
        cases same with
        | false => cases failed
        | true =>
          obtain ⟨x', member, refused⟩ := ih failed
          exact ⟨x', .tail _ member, refused⟩

/-- Only signaling numbers refuse to be compared. -/
theorem equal_error {x y : Value} (failed : equal x y = .error failure) :
    failure = .signaledNumber ∧ (x.Holds (·.isSignaling = true) ∨ y.Holds (·.isSignaling = true)) := by
  induction x using partsInduction generalizing y with
  | step x ih =>
    have deeper {part part' : Value} (member : part ∈ x.parts) (member' : part' ∈ y.parts)
        (refused : equal part part' = .error failure) :
        failure = .signaledNumber ∧ (x.Holds (·.isSignaling = true) ∨ y.Holds (·.isSignaling = true)) :=
      (ih part member refused).imp_right fun either =>
        either.imp (fun holds => holds.outer member) fun holds => holds.outer member'
    unfold equal at failed
    split at failed
    · split at failed
      · obtain ⟨part, member, part', member', refused⟩ := equalItems_error failed
        exact deeper member member' refused
      · cases failed
    · split at failed
      · obtain ⟨part, member, part', member', refused⟩ := equalFields_error failed
        exact deeper (List.mem_map_of_mem member) (List.mem_map_of_mem member') refused
      · cases failed
    · obtain ⟨part, member, part', member', refused⟩ := equalCells_error failed
      exact deeper (List.mem_map_of_mem member) (List.mem_map_of_mem member') refused
    · exact (equalScalars_error failed).imp_right (Or.imp .self .self)

end DataGrid.Value
