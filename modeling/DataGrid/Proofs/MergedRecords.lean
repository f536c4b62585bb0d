import DataGrid.Proofs.ValueEquality

/-! Merging one record into another, field by field and one level down where both hold records. It is given up where two
values can not be compared; what it leaves takes the same merge once more without a change. -/

namespace DataGrid.Value

/-- What stands at a path of fields in a value. -/
def at? : Value → List String → Option Value
  | value, [] => some value
  | .object fields, name :: rest => (field? fields name).bind (at? · rest)
  | _, _ :: _ => none

/-- What a merge leaves of a field, by what the two records hold there. -/
inductive Cell (merges : (xs ys zs : List (String × Value)) → Prop) : (old new left : Option Value) → Prop where
  | kept (old : Option Value) : Cell merges old none old
  | added (new : Value) : Cell merges none (some new) (some new)
  | records {xs ys zs} (inner : merges xs ys zs) :
    Cell merges (some (.object xs)) (some (.object ys)) (some (.object zs))
  | swapped {old new : Value} (one : old.isRecord ≠ new.isRecord) : Cell merges (some old) (some new) (some new)
  | same {old new : Value} (plain : old.isRecord = false ∧ new.isRecord = false) (equal : equal old new = .ok true) :
    Cell merges (some old) (some new) (some old)
  | replaced {old new : Value} (plain : old.isRecord = false ∧ new.isRecord = false)
    (differ : equal old new = .ok false) : Cell merges (some old) (some new) (some new)

/-- What merging `ys` into `xs` leaves, at every key. -/
inductive Merges : (xs ys zs : List (String × Value)) → Prop where
  | fields {xs ys zs} (each : ∀ key, Cell Merges (field? xs key) (field? ys key) (field? zs key)) : Merges xs ys zs

variable {xs ys zs : List (String × Value)} {old new held value : Value} {path : List String} {failure : Error}

/-! ### Paths -/

theorem at?_nil (value : Value) : value.at? [] = some value := by cases value <;> rfl

theorem at?_cons {name : String} (found : value.at? (name :: path) = some held) :
    ∃ fields inner, value = .object fields ∧ field? fields name = some inner ∧ inner.at? path = some held := by
  cases value with
  | object fields =>
    obtain ⟨inner, first, rest⟩ := Option.bind_eq_some_iff.mp (show (field? fields name).bind _ = _ from found)
    exact ⟨fields, inner, rfl, first, rest⟩
  | _ => cases found

theorem at?_plain (plain : value.isRecord = false) (found : value.at? path = some held) : path = [] ∧ held = value := by
  cases path with
  | nil =>
    rw [at?_nil] at found
    cases found
    exact ⟨rfl, rfl⟩
  | cons name rest =>
    obtain ⟨fields, inner, rfl, -⟩ := at?_cons found
    cases plain

theorem part_of_field {key : String} (found : field? xs key = some held) : held ∈ (Value.object xs).parts :=
  List.mem_map_of_mem (mem_of_field? found)

theorem Keyed.at (keyed : value.Keyed) (found : value.at? path = some held) : held.Keyed := by
  induction path generalizing value with
  | nil =>
    rw [at?_nil] at found
    cases found
    exact keyed
  | cons name rest ih =>
    obtain ⟨fields, inner, rfl, first, found⟩ := at?_cons found
    exact ih (keyed.part (part_of_field first)) found

theorem Holds.at {kind : Value → Prop} (holds : held.Holds kind) (found : value.at? path = some held) :
    value.Holds kind := by
  induction path generalizing value with
  | nil =>
    rw [at?_nil] at found
    cases found
    exact holds
  | cons name rest ih =>
    obtain ⟨fields, inner, rfl, first, found⟩ := at?_cons found
    exact (ih found).outer (part_of_field first)

/-! ### One field -/

theorem mergeInto_records (xs ys : List (String × Value)) :
    mergeInto (.object xs) (.object ys) = (mergeFields xs ys).map .object := by
  rw [mergeInto]
  rfl

theorem mergeInto_cases (made : mergeInto old new = .ok held) :
    (∃ xs ys zs, old = .object xs ∧ new = .object ys ∧ held = .object zs ∧ mergeFields xs ys = .ok zs) ∨
      (old.isRecord && new.isRecord) = false ∧
        (equal old new = .ok true ∧ held = old ∨ equal old new = .ok false ∧ held = new) := by
  cases both : old.isRecord && new.isRecord with
  | true =>
    obtain ⟨first, second⟩ := Bool.and_eq_true_iff.mp both
    obtain ⟨xs, rfl⟩ := isRecord_iff.mp first
    obtain ⟨ys, rfl⟩ := isRecord_iff.mp second
    rw [mergeInto_records] at made
    cases merged : mergeFields xs ys with
    | error => rw [merged] at made; cases made
    | ok zs =>
      rw [merged] at made
      cases made
      exact .inl ⟨xs, ys, zs, rfl, rfl, rfl, merged⟩
  | false =>
    rw [mergeInto_compared both] at made
    cases compared : equal old new with
    | error => rw [compared] at made; cases made
    | ok same =>
      rw [compared] at made
      cases made
      cases same with
      | true => exact .inr ⟨rfl, .inl ⟨rfl, rfl⟩⟩
      | false => exact .inr ⟨rfl, .inr ⟨rfl, rfl⟩⟩

/-! ### All fields -/

/-- Merging fields is given up at one of them. -/
theorem mergeFields_refused (distinct : (ys.map (·.1)).Nodup) (failed : mergeFields xs ys = .error failure) :
    ∃ key old new, field? xs key = some old ∧ field? ys key = some new ∧ mergeInto old new = .error failure := by
  induction ys generalizing xs with
  | nil => cases failed
  | cons field rest ih =>
    obtain ⟨name, new⟩ := field
    obtain ⟨fresh, distinct⟩ := List.nodup_cons.mp distinct
    rw [mergeFields_cons] at failed
    cases put : mergedOver xs name new with
    | error refused =>
      rw [put] at failed
      cases failed
      unfold mergedOver at put
      split at put
      · next old found => exact ⟨name, old, new, found, by rw [field?_cons, if_pos (beq_self_eq_true name)], put⟩
      · cases put
    | ok value =>
      rw [put, Except.ok_bind] at failed
      obtain ⟨key, old, other, standing, given, refused⟩ := ih distinct failed
      have apart : name ≠ key := by
        rintro rfl
        rw [field?_eq_none_iff.mpr fresh] at given
        cases given
      rw [field?_setField_other apart.symm] at standing
      exact ⟨key, old, other, standing, by rw [field?_cons, if_neg (by simpa using apart), given], refused⟩

theorem mergeFields_distinct (distinct : (xs.map (·.1)).Nodup) (made : mergeFields xs ys = .ok zs) :
    (zs.map (·.1)).Nodup := by
  induction ys generalizing xs with
  | nil =>
    cases made
    exact distinct
  | cons field rest ih =>
    obtain ⟨name, new⟩ := field
    rw [mergeFields_cons] at made
    obtain ⟨value, -, made⟩ := Except.bind_ok made
    refine ih ?_ made
    rw [names_setField]
    split
    · exact distinct
    · next fresh =>
      refine List.nodup_append.mpr ⟨distinct, by simp, ?_⟩
      rintro other member _ last rfl
      exact fresh (List.mem_singleton.mp last ▸ member)

/-- What a field holds after the merge, when the second record has one of its name. -/
theorem mergeFields_given {key : String} (distinct : (ys.map (·.1)).Nodup) (made : mergeFields xs ys = .ok zs)
    (given : field? ys key = some new) :
    ∃ held, field? zs key = some held ∧
      (field? xs key = none ∧ held = new ∨ ∃ old, field? xs key = some old ∧ mergeInto old new = .ok held) := by
  have left := mergeFields_field? distinct made key
  rw [given] at left
  obtain ⟨held, put, found⟩ := left
  refine ⟨held, found, ?_⟩
  unfold mergedOver at put
  split at put
  · next old standing => exact .inr ⟨old, standing, put⟩
  · next fresh =>
    cases put
    exact .inl ⟨fresh, rfl⟩

/-- A merge that is made leaves each field as it should be. -/
theorem mergeInto_cell (keyed : new.Keyed) (made : mergeInto old new = .ok held) :
    Cell Merges (some old) (some new) (some held) := by
  induction new using partsInduction generalizing old held with
  | step new ih =>
    obtain ⟨xs, ys, zs, rfl, rfl, rfl, merged⟩ | ⟨one, rest⟩ := mergeInto_cases made
    · have distinct := keyed ys 0 .self
      refine .records (.fields fun key => ?_)
      cases given : field? ys key with
      | none =>
        have left := mergeFields_field? distinct merged key
        rw [given] at left
        rw [left]
        exact .kept _
      | some new =>
        obtain ⟨held, found, ⟨fresh, rfl⟩ | ⟨old, standing, put⟩⟩ := mergeFields_given distinct merged given
        · rw [fresh, found]
          exact .added held
        · rw [standing, found]
          have part := part_of_field given
          exact ih new part (keyed.part part) put
    · cases first : old.isRecord <;> cases second : new.isRecord
      · obtain ⟨equal, rfl⟩ | ⟨differ, rfl⟩ := rest
        · exact .same ⟨first, second⟩ equal
        · exact .replaced ⟨first, second⟩ differ
      case true.true => simp [first, second] at one
      all_goals
        have apart : old.isRecord ≠ new.isRecord := by simp [first, second]
        rw [equal_record apart] at rest
        obtain ⟨equal, -⟩ | ⟨-, rfl⟩ := rest
        · cases equal
        · exact .swapped apart

theorem keyed_plain (plain : value.isRecord = false) (empty : value.parts = []) : value.Keyed := by
  intro fields depth inside
  cases inside with
  | self => cases plain
  | inner member => simp [empty] at member

theorem keyed_object (distinct : (xs.map (·.1)).Nodup) (each : ∀ field ∈ xs, field.2.Keyed) :
    (Value.object xs).Keyed := by
  intro fields depth inside
  cases inside with
  | self => exact distinct
  | inner member inside =>
    obtain ⟨field, among, rfl⟩ := List.mem_map.mp member
    exact each field among fields _ inside

theorem mergeInto_keyed (keyed : old.Keyed) (keyed' : new.Keyed) (made : mergeInto old new = .ok held) : held.Keyed := by
  induction new using partsInduction generalizing old held with
  | step new ih =>
    obtain ⟨xs, ys, zs, rfl, rfl, rfl, merged⟩ | ⟨-, ⟨-, rfl⟩ | ⟨-, rfl⟩⟩ := mergeInto_cases made
    · have distinct := mergeFields_distinct (keyed xs 0 .self) merged
      refine keyed_object distinct fun field member => ?_
      obtain ⟨key, held⟩ := field
      have found := field?_of_mem distinct member
      cases given : field? ys key with
      | none =>
        have left := mergeFields_field? (keyed' ys 0 .self) merged key
        rw [given, found] at left
        exact keyed.part (part_of_field left.symm)
      | some new =>
        have part := part_of_field given
        obtain ⟨other, found', ⟨-, rfl⟩ | ⟨old, standing, put⟩⟩ := mergeFields_given (keyed' ys 0 .self) merged given
        all_goals
          rw [found] at found'
          cases found'
        · exact keyed'.part part
        · exact ih new part (keyed.part (part_of_field standing)) (keyed'.part part) put
    · exact keyed
    · exact keyed'

/-! ### Refused merges -/

/-- Whether all can be compared that two values hold at one path, unless both are records there. -/
def Comparable (old new : Value) : Prop :=
  ∀ path first second, old.at? path = some first → new.at? path = some second →
    (first.isRecord && second.isRecord) = false → ∃ same, equal first second = .ok same

theorem mergeInto_comparable (keyed : new.Keyed) (made : mergeInto old new = .ok held) : Comparable old new := by
  intro path first second standing given one
  induction path generalizing old new held with
  | nil =>
    rw [at?_nil] at standing given
    cases standing
    cases given
    obtain ⟨xs, ys, zs, rfl, rfl, -⟩ | ⟨-, ⟨equal, -⟩ | ⟨differ, -⟩⟩ := mergeInto_cases made
    · cases one
    · exact ⟨true, equal⟩
    · exact ⟨false, differ⟩
  | cons name rest ih =>
    obtain ⟨xs, old, rfl, standing', standing⟩ := at?_cons standing
    obtain ⟨ys, new, rfl, given', given⟩ := at?_cons given
    obtain ⟨xs, ys, zs, ⟨⟩, ⟨⟩, rfl, merged⟩ | ⟨one, -⟩ := mergeInto_cases made
    · obtain ⟨held, -, ⟨fresh, -⟩ | ⟨old, standing'', put⟩⟩ := mergeFields_given (keyed ys 0 .self) merged given'
      · rw [fresh] at standing'
        cases standing'
      · rw [standing'] at standing''
        cases standing''
        exact ih (keyed.part (part_of_field given')) put standing given
    · cases one

theorem mergeInto_refused (keyed : new.Keyed) (failed : mergeInto old new = .error failure) :
    ∃ path first second, old.at? path = some first ∧ new.at? path = some second ∧
      (first.isRecord && second.isRecord) = false ∧ equal first second = .error failure := by
  induction new using partsInduction generalizing old with
  | step new ih =>
    cases both : old.isRecord && new.isRecord with
    | true =>
      obtain ⟨first, second⟩ := Bool.and_eq_true_iff.mp both
      obtain ⟨xs, rfl⟩ := isRecord_iff.mp first
      obtain ⟨ys, rfl⟩ := isRecord_iff.mp second
      rw [mergeInto_records] at failed
      cases merged : mergeFields xs ys with
      | ok zs =>
        rw [merged] at failed
        cases failed
      | error refused =>
        rw [merged] at failed
        cases failed
        obtain ⟨key, old, new, standing, given, refused⟩ := mergeFields_refused (keyed ys 0 .self) merged
        have part := part_of_field given
        obtain ⟨path, first, second, found, found', one, compared⟩ := ih new part (keyed.part part) refused
        exact ⟨key :: path, first, second, by rw [at?, standing]; exact found, by rw [at?, given]; exact found', one,
          compared⟩
    | false =>
      rw [mergeInto_compared both] at failed
      cases compared : equal old new with
      | ok same =>
        rw [compared] at failed
        cases failed
      | error refused =>
        rw [compared] at failed
        cases failed
        exact ⟨[], old, new, at?_nil old, at?_nil new, both, compared⟩

/-! ### Merging once more -/

/-- Whether a value takes another one in without a change, or refuses it for a signaling number. -/
def Settled (held new : Value) : Prop :=
  mergeInto held new = .ok held ∨ mergeInto held new = .error .signaledNumber ∧ new.Holds (·.isSignaling = true)

theorem mergeFields_settled (distinct : (zs.map (·.1)).Nodup)
    (each : ∀ field ∈ ys, ∃ held, field? zs field.1 = some held ∧ Settled held field.2) :
    Settled (.object zs) (.object ys) := by
  have settled : mergeFields zs ys = .ok zs ∨
      mergeFields zs ys = .error .signaledNumber ∧ ∃ field ∈ ys, field.2.Holds (·.isSignaling = true) := by
    induction ys with
    | nil => exact .inl rfl
    | cons field rest ih =>
      obtain ⟨⟨held, found, settled⟩, others⟩ := List.forall_mem_cons.mp each
      obtain ⟨name, new⟩ := field
      rw [mergeFields_cons, mergedOver, found]
      rcases settled with same | ⟨refused, signaling⟩
      · dsimp only
        rw [same, Except.ok_bind, setField_held distinct found]
        rcases ih others with kept | ⟨refused, one, member, holds⟩
        · exact .inl kept
        · exact .inr ⟨refused, one, .tail _ member, holds⟩
      · dsimp only
        rw [refused]
        exact .inr ⟨rfl, (name, new), .head _, signaling⟩
  rw [Settled, mergeInto_records]
  rcases settled with same | ⟨refused, field, member, signaling⟩
  · rw [same]
    exact .inl rfl
  · rw [refused]
    exact .inr ⟨rfl, signaling.outer (List.mem_map_of_mem member)⟩

theorem settled_same (one : (old.isRecord && new.isRecord) = false) (same : equal old new = .ok true) :
    Settled old new := by
  rw [Settled, mergeInto_compared one, same]
  exact .inl rfl

theorem settled_self (keyed : value.Keyed) : Settled value value := by
  induction value using partsInduction with
  | step value ih =>
    cases record : value.isRecord with
    | true =>
      obtain ⟨fields, rfl⟩ := isRecord_iff.mp record
      have distinct := keyed fields 0 .self
      refine mergeFields_settled distinct fun field member => ?_
      have part : field.2 ∈ (Value.object fields).parts := List.mem_map_of_mem member
      exact ⟨field.2, field?_of_mem distinct member, ih field.2 part (keyed.part part)⟩
    | false =>
      have one : (value.isRecord && value.isRecord) = false := by simp [record]
      rw [Settled, mergeInto_compared one]
      cases compared : equal value value with
      | ok same => cases same <;> exact .inl rfl
      | error failure =>
        obtain ⟨rfl, signaling⟩ := equal_error compared
        exact .inr ⟨rfl, signaling.elim id id⟩

/-- What a merge has left is settled. -/
theorem mergeInto_settled (keyed : old.Keyed) (keyed' : new.Keyed) (made : mergeInto old new = .ok held) :
    Settled held new := by
  induction new using partsInduction generalizing old held with
  | step new ih =>
    obtain ⟨xs, ys, zs, rfl, rfl, rfl, merged⟩ | ⟨one, ⟨same, rfl⟩ | ⟨-, rfl⟩⟩ := mergeInto_cases made
    · refine mergeFields_settled (mergeFields_distinct (keyed xs 0 .self) merged) fun field member => ?_
      obtain ⟨key, new⟩ := field
      have distinct := keyed' ys 0 .self
      have part : new ∈ (Value.object ys).parts := List.mem_map_of_mem member
      obtain ⟨held, found, ⟨-, rfl⟩ | ⟨old, standing, put⟩⟩ :=
        mergeFields_given distinct merged (field?_of_mem distinct member)
      · exact ⟨held, found, settled_self (keyed'.part part)⟩
      · exact ⟨held, found, ih new part (keyed.part (part_of_field standing)) (keyed'.part part) put⟩
    · exact settled_same one same
    · exact settled_self keyed'

/-! ### The whole merge -/

/-- What stands at a path of the second record, and is no record, stands there afterwards, or what equals it. -/
theorem Merges.at (merges : Merges xs ys zs) (keyed : (Value.object ys).Keyed)
    (found : (Value.object ys).at? path = some new) (plain : new.isRecord = false) :
    ∃ held, (Value.object zs).at? path = some held ∧
      (equal held new = .ok true ∨ held = new ∧ new.Holds Singular) := by
  have itself : equal new new = .ok true ∨ new = new ∧ new.Holds Singular := by
    by_cases singular : new.Holds Singular
    · exact .inr ⟨rfl, singular⟩
    · exact .inl (equal_self (keyed.at found) singular)
  induction path generalizing xs ys zs with
  | nil =>
    rw [at?_nil] at found
    cases found
    cases plain
  | cons name rest ih =>
    obtain ⟨each⟩ := merges
    obtain ⟨_, inner, ⟨⟩, given, found⟩ := at?_cons found
    have cell := each name
    rw [given] at cell
    rw [at?]
    generalize field? xs name = old, field? zs name = held at cell
    cases cell with
    | added | swapped | replaced => exact ⟨new, found, itself⟩
    | records inner => exact ih inner (keyed.part (part_of_field given)) found
    | same both equal =>
      obtain ⟨rfl, rfl⟩ := at?_plain both.2 found
      exact ⟨_, at?_nil _, .inl equal⟩

theorem merge_objects (xs ys : List (String × Value)) :
    merge (.object xs) (.object ys) = mergeInto (.object xs) (.object ys) := by rw [merge, mergeInto]

private def standing : List (String × Value) :=
  [("page", .object [("size", .int 10), ("first", .bool true)]), ("name", .text "main"), ("limits", .null)]

private def given : List (String × Value) :=
  [("page", .object [("first", .int 1), ("size", .int 25)]), ("limits", .object []), ("ratio", .float .nan)]

private def left : List (String × Value) :=
  [("page", .object [("size", .int 25), ("first", .bool true)]), ("name", .text "main"), ("limits", .object []),
    ("ratio", .float .nan)]

private def single (value : Value) : Value := .object [("x", value)]

private theorem merge_single {old new : Value} (one : (old.isRecord && new.isRecord) = false) :
    merge (single old) (single new) = (equal old new).map fun same => single (if same then old else new) := by
  have put : mergedOver [("x", old)] "x" new = mergeInto old new := rfl
  rw [single, single, merge_objects, mergeInto_records, mergeFields_cons, put, mergeInto_compared one]
  cases equal old new <;> rfl

end DataGrid.Value
