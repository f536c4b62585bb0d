import DataGrid.Value.Display

/-! Values that have a text. A value has none for an integer somewhere in it that is too long, or for a list or record
that stands too deep in it. So what is taken out of a value that has a text has one too. -/

namespace DataGrid.Value

/-- The values that a list or a record holds. -/
def parts : Value → List Value
  | .list items => items
  | .object fields | .row fields => fields.map (·.2)
  | _ => []

/-- Whether a value occurs in another one, inside so many lists and records. -/
inductive Inside (part : Value) : (depth : Nat) → (whole : Value) → Prop where
  | self : Inside part 0 part
  | inner {depth inner whole} (member : inner ∈ parts whole) (inside : Inside part depth inner) :
    Inside part (depth + 1) whole

/-- A statement holds of all values when it holds of each value whose parts it holds of. -/
theorem partsInduction {motive : Value → Prop}
    (step : ∀ value : Value, (∀ inner ∈ value.parts, motive inner) → motive value) (value : Value) : motive value := by
  refine step value fun inner member => ?_
  have smaller : sizeOf inner < sizeOf value := by
    cases value with
    | list items =>
      have inside := List.sizeOf_lt_of_mem (show inner ∈ items from member)
      simp only [list.sizeOf_spec]
      omega
    | object fields | row fields =>
      obtain ⟨⟨name, held⟩, among, rfl⟩ := List.mem_map.mp member
      have inside := List.sizeOf_lt_of_mem among
      simp only [object.sizeOf_spec, row.sizeOf_spec, Prod.mk.sizeOf_spec] at inside ⊢
      omega
    | _ => cases member
  exact partsInduction step inner
termination_by sizeOf value

/-- Whether something of a kind is in a value, or is the value itself. -/
def Holds (kind : Value → Prop) (value : Value) : Prop := ∃ part depth, Inside part depth value ∧ kind part

section Holds
variable {kind : Value → Prop} {value : Value}

theorem Holds.self (own : kind value) : value.Holds kind := ⟨value, 0, .self, own⟩

theorem Holds.outer {part : Value} (holds : part.Holds kind) (member : part ∈ value.parts) : value.Holds kind := by
  obtain ⟨one, depth, inside, own⟩ := holds
  exact ⟨one, depth + 1, .inner member inside, own⟩

theorem holds_iff : value.Holds kind ↔ kind value ∨ ∃ part ∈ value.parts, part.Holds kind := by
  constructor
  · rintro ⟨one, depth, inside, own⟩
    cases inside with
    | self => exact .inl own
    | inner member inside => exact .inr ⟨_, member, one, _, inside, own⟩
  · rintro (own | ⟨part, member, holds⟩)
    · exact .self own
    · exact holds.outer member

theorem not_holds_iff : ¬value.Holds kind ↔ ¬kind value ∧ ∀ part ∈ value.parts, ¬part.Holds kind := by
  rw [holds_iff, not_or]
  simp only [not_exists, not_and]

end Holds

/-- Whether nothing about a value itself, inside `depth` others, keeps it from having a text. -/
def Writable (depth : Nat) : Value → Prop
  | .int n => isTooLong n = false
  | .list _ | .object _ | .row _ => depth < stepLimit
  | _ => True

/-- Whether a value inside `depth` others can be written with all that it holds. -/
def WritableWithin (depth : Nat) (value : Value) : Prop :=
  ∀ part down, Inside part down value → part.Writable (depth + down)

/-- Whether a value has a text: no integer in it is too long, and no list or record in it is too deep. -/
def HasText (value : Value) : Prop := ∀ part depth, Inside part depth value → part.Writable depth

theorem writableWithin_iff (depth : Nat) (value : Value) :
    value.WritableWithin depth ↔ value.Writable depth ∧ ∀ inner ∈ value.parts, inner.WritableWithin (depth + 1) := by
  constructor
  · intro written
    refine ⟨written value 0 .self, fun inner member part down inside => ?_⟩
    rw [Nat.add_right_comm]
    exact written part (down + 1) (.inner member inside)
  · rintro ⟨own, each⟩ part _ inside
    cases inside with
    | self => exact own
    | inner member inside => exact Nat.add_right_comm depth _ 1 ▸ each _ member part _ inside

theorem writableWithin_scalar {depth : Nat} {value : Value} (own : value.Writable depth) (empty : value.parts = []) :
    value.WritableWithin depth := by
  rw [writableWithin_iff, empty]
  exact ⟨own, List.forall_mem_nil _⟩

theorem hasText_iff (value : Value) : value.HasText ↔ value.WritableWithin 0 := by simp [HasText, WritableWithin]

theorem hasText_scalar {value : Value} (own : value.Writable 0) (empty : value.parts = []) : value.HasText :=
  (hasText_iff value).mpr (writableWithin_scalar own empty)

theorem hasText_nil : (Value.list []).HasText ∧ (Value.object []).HasText :=
  have shallow : 0 < stepLimit := by decide
  ⟨hasText_scalar shallow rfl, hasText_scalar shallow rfl⟩

theorem Writable.shallower {depth : Nat} {value : Value} (written : value.Writable (depth + 1)) :
    value.Writable depth := by
  cases value with
  | list _ | object _ | row _ => exact Nat.lt_of_succ_lt written
  | _ => exact written

/-- What a value with a text holds has a text. -/
theorem HasText.inner {value inner : Value} (written : value.HasText) (member : inner ∈ value.parts) : inner.HasText :=
  fun part depth inside => (written part (depth + 1) (.inner member inside)).shallower

theorem HasText.field {fields : List (String × Value)} (written : (Value.object fields).HasText) (name : String) :
    (fieldOrNull fields name).HasText := by
  unfold fieldOrNull field?
  cases found : fields.find? fun field => field.1 == name with
  | none => exact hasText_scalar trivial rfl
  | some field => exact written.inner (List.mem_map_of_mem (List.mem_of_find?_eq_some found))

theorem forall_setField {good : Value → Prop} {fields : List (String × Value)} {value : Value}
    (held : ∀ field ∈ fields, good field.2) (key : String) (one : good value) :
    ∀ field ∈ setField fields key value, good field.2 := by
  unfold setField
  split
  · rw [List.forall_mem_map]
    intro field member
    dsimp only
    split
    · exact one
    · exact held field member
  · exact List.forall_mem_append.mpr ⟨held, List.forall_mem_singleton.mpr one⟩

end DataGrid.Value
