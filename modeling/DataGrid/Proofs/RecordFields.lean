import DataGrid.Value

/-! Setting a field of a record: the field holds the new value, all other fields hold what they held, and the names
keep their order, with a new one behind them. -/

namespace DataGrid.Value

variable {fields : List (String × Value)} {key : String} {value : Value}

theorem field?_cons (name : String) (held : Value) (rest : List (String × Value)) (key : String) :
    field? ((name, held) :: rest) key = if name == key then some held else field? rest key := by
  unfold field?
  rw [List.find?_cons]
  dsimp only
  cases name == key <;> rfl

theorem field?_append (first second : List (String × Value)) (key : String) :
    field? (first ++ second) key = (field? first key).or (field? second key) := by
  unfold field?
  rw [List.find?_append, Option.map_or]

theorem field?_filter (keep : String × Value → Bool) (every : ∀ value, keep (key, value) = true)
    (fields : List (String × Value)) : field? (fields.filter keep) key = field? fields key := by
  induction fields with
  | nil => rfl
  | cons field rest ih =>
    obtain ⟨name, held⟩ := field
    rw [field?_cons, ← ih]
    by_cases same : name = key
    · subst same
      simp [every, field?_cons]
    · cases kept : keep (name, held) <;> simp [kept, field?_cons, same]

theorem field?_eq_none_iff : field? fields key = none ↔ key ∉ fields.map (·.1) := by
  induction fields with
  | nil => simp [field?]
  | cons field rest ih =>
    obtain ⟨name, held⟩ := field
    rw [field?_cons, List.map_cons, List.mem_cons]
    by_cases same : name = key
    · simp [same]
    · simpa [same, Ne.symm same] using ih

theorem mem_of_field? (found : field? fields key = some value) : (key, value) ∈ fields := by
  induction fields with
  | nil => cases found
  | cons field rest ih =>
    obtain ⟨name, held⟩ := field
    rw [field?_cons] at found
    split at found
    · next same =>
      cases found
      exact beq_iff_eq.mp same ▸ List.mem_cons_self
    · exact List.mem_cons_of_mem _ (ih found)

theorem field?_of_mem (distinct : (fields.map (·.1)).Nodup) (member : (key, value) ∈ fields) :
    field? fields key = some value := by
  induction fields with
  | nil => cases member
  | cons field rest ih =>
    obtain ⟨name, held⟩ := field
    obtain ⟨fresh, distinct⟩ := List.nodup_cons.mp distinct
    rw [field?_cons]
    rcases List.mem_cons.mp member with same | later
    · cases same
      exact if_pos (beq_self_eq_true key)
    · have different : name ≠ key := fun same => fresh (List.mem_map.mpr ⟨(key, value), later, same.symm⟩)
      rw [if_neg (by simpa using different)]
      exact ih distinct later

theorem any_name_iff : fields.any (·.1 == key) = true ↔ key ∈ fields.map (·.1) := by
  simp

theorem names_setField (fields : List (String × Value)) (key : String) (value : Value) :
    (setField fields key value).map (·.1) =
      if key ∈ fields.map (·.1) then fields.map (·.1) else fields.map (·.1) ++ [key] := by
  unfold setField
  by_cases known : key ∈ fields.map (·.1)
  · rw [if_pos (any_name_iff.mpr known), if_pos known, List.map_map]
    refine List.map_congr_left fun field _ => ?_
    dsimp only [Function.comp]
    split <;> rfl
  · rw [if_neg (mt any_name_iff.mp known), if_neg known, List.map_append]
    rfl

@[simp] theorem field?_setField_same (fields : List (String × Value)) (key : String) (value : Value) :
    field? (setField fields key value) key = some value := by
  unfold setField
  by_cases known : key ∈ fields.map (·.1)
  · rw [if_pos (any_name_iff.mpr known)]
    induction fields with
    | nil => cases known
    | cons field rest ih =>
      obtain ⟨name, held⟩ := field
      rw [List.map_cons]
      by_cases same : name = key
      · subst same
        simp [field?_cons]
      · have later : key ∈ rest.map (·.1) := by simpa [Ne.symm same] using known
        simpa [same, field?_cons] using ih later
  · rw [if_neg (mt any_name_iff.mp known), field?_append, field?_eq_none_iff.mpr known, field?_cons]
    simp

theorem field?_setField_other {other : String} (different : other ≠ key) (fields : List (String × Value)) (value : Value) :
    field? (setField fields key value) other = field? fields other := by
  have apart : (key == other) = false := beq_eq_false_iff_ne.mpr (Ne.symm different)
  unfold setField
  by_cases known : fields.any (·.1 == key) = true
  · rw [if_pos known]
    clear known
    induction fields with
    | nil => rfl
    | cons field rest ih =>
      obtain ⟨name, held⟩ := field
      rw [List.map_cons]
      by_cases same : name = key
      · subst same
        simpa [field?_cons, apart] using ih
      · by_cases selected : name = other
        · subst selected
          simp [field?_cons, same]
        · simpa [field?_cons, same, selected] using ih
  · rw [if_neg known, field?_append, field?_cons, apart]
    simp [field?]

/-- Setting a field to what it holds changes nothing. -/
theorem setField_held (distinct : (fields.map (·.1)).Nodup) (held : field? fields key = some value) :
    setField fields key value = fields := by
  have known : fields.any (·.1 == key) = true := any_name_iff.mpr (List.mem_map_of_mem (mem_of_field? held))
  rw [setField, if_pos known]
  refine (List.map_congr_left fun field member => ?_).trans (List.map_id fields)
  obtain ⟨name, old⟩ := field
  dsimp only [id]
  split
  · next same =>
    obtain rfl := beq_iff_eq.mp same
    rw [field?_of_mem distinct member] at held
    cases held
    rfl
  · rfl

theorem fieldOrNull_setField_same (fields : List (String × Value)) (key : String) (value : Value) :
    fieldOrNull (setField fields key value) key = value := by
  rw [fieldOrNull, field?_setField_same, Option.getD_some]

theorem fieldOrNull_setField_other {other : String} (different : other ≠ key) (fields : List (String × Value))
    (value : Value) : fieldOrNull (setField fields key value) other = fieldOrNull fields other := by
  rw [fieldOrNull, field?_setField_other different, fieldOrNull]

end DataGrid.Value
