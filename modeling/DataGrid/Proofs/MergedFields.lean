import DataGrid.Value.Merge
import DataGrid.Proofs.ActionSteps
import DataGrid.Proofs.RecordFields

/-! Fields that are merged over those of a record. Each makes its own of what stood under its name; over flags, whole
numbers and texts it is taken as it is, and only a number that refuses to be compared can not be merged. -/

namespace DataGrid

namespace Value

theorem equalScalars_error {x y : Value} {failure : Error} (failed : equalScalars x y = .error failure) :
    failure = .signaledNumber ∧ (x.isSignaling = true ∨ y.isSignaling = true) := by
  have asked : numberOrder? false x y = .error failure := by
    unfold equalScalars at failed
    split at failed
    case h_6 =>
      cases read : numberOrder? false x y with
      | error =>
        rw [read] at failed
        cases failed
        rfl
      | ok =>
        rw [read] at failed
        cases failed
    all_goals cases failed
  unfold numberOrder? at asked
  split at asked
  · simp only [Bool.false_and, Bool.or_false] at asked
    split at asked
    · next signaling =>
      cases asked
      exact ⟨rfl, by simpa using signaling⟩
    · cases asked
  · cases asked

def isRecord : Value → Bool
  | .object _ => true
  | _ => false

variable {old new value : Value} {failure : Error}

theorem isRecord_iff : value.isRecord = true ↔ ∃ fields, value = .object fields := by
  cases value <;> simp [isRecord]

theorem equal_record (one : old.isRecord ≠ new.isRecord) : equal old new = .ok false := by
  have unordered : numberOrder? false old new = .ok none := by
    unfold numberOrder?
    split
    · next first second =>
      cases old with
      | object => cases first
      | _ =>
        cases new with
        | object => cases second
        | _ => exact absurd rfl one
    · rfl
  cases old with
  | object fields =>
    cases new with
    | object => exact absurd rfl one
    | _ =>
      simp only [equal, equalScalars, unordered]
      rfl
  | _ =>
    cases new with
    | object =>
      simp only [equal, equalScalars, unordered]
      rfl
    | _ => exact absurd rfl one

/-- Unless both values are records, the merge hangs on whether they are equal. -/
theorem mergeInto_compared (one : (old.isRecord && new.isRecord) = false) :
    mergeInto old new = (equal old new).map fun same => if same then old else new := by
  cases new with
  | object ys =>
    have apart : old.isRecord ≠ (Value.object ys).isRecord := by simpa [isRecord] using one
    rw [equal_record apart]
    cases old with
    | object => exact absurd rfl apart
    | _ => rfl
  | _ => rfl

/-- The values that settings have when nothing is given. -/
inductive Plain : Value → Prop where
  | flag (flag : Bool) : Plain (.bool flag)
  | number (number : Int) : Plain (.int number)
  | text (content : String) : Plain (.text content)

theorem Plain.equal_eq (plain : Plain old) (new : Value) : equal old new = equalScalars old new := by
  cases plain <;> simp [equal]

/-- What is merged over such a value replaces it, unless both are equal. -/
theorem Plain.mergeInto_eq (plain : Plain old) (new : Value) :
    mergeInto old new = (equalScalars old new).map fun same => if same then old else new := by
  rw [← plain.equal_eq]
  exact mergeInto_compared (by cases plain <;> rfl)

theorem Plain.mergeInto_error (plain : Plain old) (failed : mergeInto old new = .error failure) :
    failure = .signaledNumber ∧ new.isSignaling = true := by
  have quiet : old.isSignaling = false := by cases plain <;> rfl
  rw [plain.mergeInto_eq] at failed
  cases compared : equalScalars old new with
  | ok same =>
    rw [compared] at failed
    cases failed
  | error =>
    rw [compared] at failed
    cases failed
    simpa [quiet] using equalScalars_error compared

/-- Whatever is merged over a text takes its place. -/
theorem mergeInto_text (content : String) (new : Value) : mergeInto (.text content) new = .ok new := by
  rw [(Plain.text content).mergeInto_eq]
  cases new with
  | text other =>
    by_cases same : content = other
    · simp [equalScalars, same, Except.map]
    · simp [equalScalars, same, Except.map]
  | _ => rfl

/-- A whole number that is merged over another one stays as it is, whichever of two equal values is kept. -/
theorem mergeInto_index {number size : Int} {merged : Value} (whole : new.index? = some size)
    (made : mergeInto (.int number) new = .ok merged) : merged.index? = some size := by
  rw [(Plain.number number).mergeInto_eq] at made
  have compared : equalScalars (.int number) new = .ok (compare (number * 1) (size * 1) == .eq) := by
    cases new with
    | int | bool =>
      cases whole
      rfl
    | _ => cases whole
  rw [compared] at made
  cases made
  dsimp only
  split
  · next same => simpa [index?] using same
  · exact whole

/-- What a new value makes of the field that it is merged into. -/
def mergedOver (old : List (String × Value)) (name : String) (new : Value) : Except Error Value :=
  match field? old name with
  | some held => mergeInto held new
  | none => .ok new

theorem mergeFields_cons (old : List (String × Value)) (name : String) (new : Value) (rest : List (String × Value)) :
    mergeFields old ((name, new) :: rest) =
      mergedOver old name new >>= fun value => mergeFields (setField old name value) rest := by
  rw [mergeFields, mergedOver]
  cases field? old name <;> rfl

/-- Merging fields that have names of their own: each makes its own of what stood under its name, and the others stay. -/
theorem mergeFields_field? {old given merged : List (String × Value)} (distinct : (given.map (·.1)).Nodup)
    (made : mergeFields old given = .ok merged) (key : String) :
    match field? given key with
    | none => field? merged key = field? old key
    | some new => ∃ value, mergedOver old key new = .ok value ∧ field? merged key = some value := by
  induction given generalizing old with
  | nil =>
    cases made
    rfl
  | cons field rest ih =>
    obtain ⟨name, new⟩ := field
    obtain ⟨fresh, distinct⟩ := List.nodup_cons.mp distinct
    rw [mergeFields_cons] at made
    obtain ⟨value, put, made⟩ := Except.bind_ok made
    have later := ih distinct made
    rw [field?_cons]
    by_cases same : name = key
    · subst same
      rw [field?_eq_none_iff.mpr fresh, field?_setField_same] at later
      rw [if_pos (beq_self_eq_true name)]
      exact ⟨value, put, later⟩
    · simp only [mergedOver, field?_setField_other (Ne.symm same)] at later
      rw [if_neg (by simpa using same)]
      exact later

/-- Merging over plain values fails at signaling numbers only. -/
theorem mergeFields_error {old given : List (String × Value)} (distinct : (given.map (·.1)).Nodup)
    (plain : ∀ key ∈ given.map (·.1), ∀ held, field? old key = some held → Plain held)
    (failed : mergeFields old given = .error failure) :
    failure = .signaledNumber ∧ ∃ field ∈ given, field.2.isSignaling = true := by
  induction given generalizing old with
  | nil => cases failed
  | cons field rest ih =>
    obtain ⟨name, new⟩ := field
    obtain ⟨fresh, distinct⟩ := List.nodup_cons.mp distinct
    rw [mergeFields_cons] at failed
    cases put : mergedOver old name new with
    | error refused =>
      rw [put] at failed
      unfold mergedOver at put
      split at put
      · next held found =>
        cases failed
        obtain ⟨rfl, signaling⟩ := (plain name List.mem_cons_self held found).mergeInto_error put
        exact ⟨rfl, (name, new), List.mem_cons_self, signaling⟩
      · cases put
    | ok value =>
      rw [put, Except.ok_bind] at failed
      have plain' : ∀ key ∈ rest.map (·.1), ∀ held, field? (setField old name value) key = some held → Plain held := by
        intro key among held found
        have different : key ≠ name := fun same => fresh (same ▸ among)
        rw [field?_setField_other different] at found
        exact plain key (List.mem_cons_of_mem _ among) held found
      obtain ⟨same, field, among, signaling⟩ := ih distinct plain' failed
      exact ⟨same, field, List.mem_cons_of_mem _ among, signaling⟩

end Value

end DataGrid
