import DataGrid.Proofs.Refusals
import Mathlib.Data.List.Infix

/-! The entries that columns are read from. An entry with a name or a key is a column, every other one is refused, and
either fails when what has to be written of it has no text. A list of entries is read up to the first that is refused.
The paths of a column are those that were sent, of whatever type. -/

namespace DataGrid

namespace Column

/-- Whether an entry of the columns is a record with a name or a key. -/
def Named (entry : Value) : Prop := ∃ fields, entry = .object fields ∧ (sentName fields).truthy = true

/-- Whether all that is written of an entry has a text: its name, key and word, or all of it when it is refused. -/
def Spellable (entry : Value) : Prop :=
  (∀ fields, entry = .object fields → (sentName fields).truthy = true →
    (sentName fields).HasText ∧ (sentKey fields).HasText ∧ (sentWord fields).HasText) ∧
  (¬Named entry → entry.HasText)

/-- Whether the entries of a list can be written up to the first that is refused. -/
def Spelled (entries : List Value) : Prop :=
  ∀ before entry, before ++ [entry] <+: entries → (∀ other ∈ before, Named other) → Spellable entry

/-- Whether what counts as present in a field of an entry is a text. -/
def PathIn (entry : Value) (name : String) : Prop :=
  ∀ fields, entry = .object fields → (Value.fieldOrNull fields name).truthy = true →
    ∃ content, Value.fieldOrNull fields name = .text content

end Column

/-- Whether a value is a text or left out. -/
def Value.OptionalText (value : Value) : Prop := value = .null ∨ ∃ content, value = .text content

/-- Whether a column has paths of the type that it declares. -/
def Column.Declared (column : Column) : Prop := column.jsonPath.OptionalText ∧ column.fallback.OptionalText

namespace Column

/-- What is refused is written in the refusal. -/
theorem ofValue_unnamed {entry : Value} (unnamed : ¬Named entry) :
    ∃ refusal : Error, refusal.kind = .request ∧ ofValue entry = entry.checkText >>= fun _ => .error refusal := by
  unfold ofValue
  split
  · next fields =>
    have absent : (sentName fields).truthy = false := Bool.eq_false_iff.mpr fun named => unnamed ⟨fields, rfl, named⟩
    refine ⟨.unnamedColumn (Value.object fields).shown, rfl, ?_⟩
    simp only [absent, Bool.not_false, if_true]
    cases (Value.object fields).checkText <;> rfl
  · exact ⟨.invalidColumn entry.shown, rfl, rfl⟩

/-- The column that a record with a name makes. -/
theorem ofValue_named {fields : List (String × Value)} (named : (sentName fields).truthy = true) :
    ∃ column, column.jsonPath = (Value.fieldOrNull fields "json").presence ∧
      column.fallback = (Value.fieldOrNull fields "fallback").presence ∧
      ofValue (.object fields) = ((sentName fields).checkText >>= fun _ =>
        (if (sentKey fields).truthy then sentKey fields else sentName fields).checkText >>= fun _ =>
          (sentWord fields).checkText) >>= fun _ => .ok column := by
  simp only [ofValue, named, Bool.not_true, bind_assoc]
  exact ⟨_, rfl, rfl, rfl⟩

theorem checkText_key (fields : List (String × Value)) :
    (sentName fields).HasText ∧ (if (sentKey fields).truthy then sentKey fields else sentName fields).HasText ↔
      (sentName fields).HasText ∧ (sentKey fields).HasText := by
  split
  · rfl
  · next absent =>
    have empty : sentKey fields = .text "" := by
      unfold sentKey at absent ⊢
      dsimp only at absent ⊢
      split at absent
      · next present => exact absurd present absent
      · next missing => rw [if_neg missing]
    rw [empty]
    exact and_congr_right fun written => iff_of_true written (Value.hasText_scalar trivial rfl)

theorem spellable_named {fields : List (String × Value)} (named : (sentName fields).truthy = true) :
    Spellable (.object fields) ↔
      (sentName fields).HasText ∧ (sentKey fields).HasText ∧ (sentWord fields).HasText := by
  constructor
  · exact fun spellable => spellable.1 fields rfl named
  · refine fun written => ⟨?_, fun unnamed => absurd ⟨fields, rfl, named⟩ unnamed⟩
    rintro _ ⟨⟩ _
    exact written

theorem spellable_unnamed {entry : Value} (unnamed : ¬Named entry) : Spellable entry ↔ entry.HasText :=
  ⟨fun spellable => spellable.2 unnamed,
    fun written => ⟨fun fields same named => absurd ⟨fields, same, named⟩ unnamed, fun _ => written⟩⟩

/-- What comes of reading an entry: a named one is a column, with the paths that were sent. -/
inductive Outcome (entry : Value) : Except Error Column → Prop where
  | column {column} (named : Named entry) (spelled : Spellable entry)
    (path : column.jsonPath.OptionalText ↔ PathIn entry "json")
    (other : column.fallback.OptionalText ↔ PathIn entry "fallback") : Outcome entry (.ok column)
  | refused {refusal} (unnamed : ¬Named entry) (spelled : Spellable entry) (kind : refusal.kind = .request) :
    Outcome entry (.error refusal)
  | failed {failure} (unspelled : ¬Spellable entry) (kind : failure.kind ≠ .request) : Outcome entry (.error failure)

theorem Outcome.checked {entry : Value} {check : Except Error Unit} {next : Except Error Column}
    (checks : Checks (Spellable entry) check) (passed : Spellable entry → Outcome entry next) :
    Outcome entry (check >>= fun _ => next) := by
  cases checks with
  | passed spelled => exact passed spelled
  | stopped missed kind => exact .failed missed kind

theorem pathIn_record (fields : List (String × Value)) (name : String) :
    PathIn (.object fields) name ↔ (Value.fieldOrNull fields name).presence.OptionalText := by
  cases present : (Value.fieldOrNull fields name).truthy with
  | false =>
    rw [Value.presence_null present]
    refine iff_of_true ?_ (.inl rfl)
    rintro _ ⟨⟩ sent
    rw [present] at sent
    cases sent
  | true =>
    rw [Value.presence_eq present]
    constructor
    · exact fun path => .inr (path fields rfl present)
    · rintro text _ ⟨⟩ _
      refine text.resolve_left fun null => ?_
      rw [null] at present
      cases present

theorem ofValue_outcome (entry : Value) : Outcome entry (ofValue entry) := by
  by_cases named : Named entry
  · obtain ⟨fields, rfl, present⟩ := named
    obtain ⟨column, path, fallback, same⟩ := ofValue_named present
    have checked := (sentName fields).checkText_checks.bind
      ((if (sentKey fields).truthy then sentKey fields else sentName fields).checkText_checks.bind
        (sentWord fields).checkText_checks)
    rw [← and_assoc, checkText_key, and_assoc, ← spellable_named present] at checked
    rw [same]
    refine .checked checked fun spelled => ?_
    exact .column ⟨fields, rfl, present⟩ spelled (by rw [path, pathIn_record]) (by rw [fallback, pathIn_record])
  · obtain ⟨refusal, kind, same⟩ := ofValue_unnamed named
    rw [same]
    exact .checked (entry.checkText_checks.congr (spellable_unnamed named).symm) fun spelled =>
      .refused named spelled kind

theorem spelled_cons (entry : Value) (rest : List Value) :
    Spelled (entry :: rest) ↔ Spellable entry ∧ (Named entry → Spelled rest) := by
  constructor
  · intro spelled
    refine ⟨spelled [] entry ⟨rest, rfl⟩ nofun, fun named before other inside named' => ?_⟩
    exact spelled (entry :: before) other (List.cons_prefix_cons.mpr ⟨rfl, inside⟩)
      (List.forall_mem_cons.mpr ⟨named, named'⟩)
  · rintro ⟨own, later⟩ before other inside named
    cases before with
    | nil =>
      obtain ⟨rfl, _⟩ := List.cons_prefix_cons.mp inside
      exact own
    | cons first before =>
      obtain ⟨rfl, deeper⟩ := List.cons_prefix_cons.mp inside
      obtain ⟨one, more⟩ := List.forall_mem_cons.mp named
      exact later one before other deeper more

theorem served_mapM (entries : List Value) : Served (fun _ => True) (entries.mapM ofValue) ↔ Spelled entries := by
  induction entries with
  | nil => exact iff_of_true trivial fun before entry inside => by simp at inside
  | cons entry rest ih =>
    rw [List.mapM_cons, spelled_cons, ← ih]
    generalize read : ofValue entry = result
    cases read ▸ ofValue_outcome entry with
    | column named spelled =>
      rw [Except.ok_bind, served_bind]
      exact ⟨fun served => ⟨spelled, fun _ => served.1⟩, fun both => ⟨both.2 named, fun _ _ => trivial⟩⟩
    | refused unnamed spelled kind => exact iff_of_true kind ⟨spelled, fun named => absurd named unnamed⟩
    | failed unspelled kind => exact iff_of_false kind fun both => unspelled both.1

theorem ofValue_paths {entry : Value} {column : Column} (read : ofValue entry = .ok column) :
    (column.jsonPath.OptionalText ↔ PathIn entry "json") ∧ (column.fallback.OptionalText ↔ PathIn entry "fallback") := by
  cases read ▸ ofValue_outcome entry with
  | column _ _ path fallback => exact ⟨path, fallback⟩

theorem searchFields_hasText {fields : List (String × Value)} (written : (Value.object fields).HasText) :
    (Value.object (searchFields fields)).HasText := by
  have inner := written.field "search"
  unfold searchFields
  split
  · next same => rwa [same] at inner
  · exact Value.hasText_nil.2

/-- All that is written of an entry with a text has a text. -/
theorem spellable_of_hasText {entry : Value} (written : entry.HasText) : Spellable entry := by
  refine ⟨?_, fun _ => written⟩
  rintro fields rfl _
  have key : (sentKey fields).HasText := by
    unfold sentKey
    dsimp only
    split
    · exact written.field "data"
    · exact Value.hasText_scalar trivial rfl
  refine ⟨?_, key, (searchFields_hasText written).field "value"⟩
  unfold sentName
  dsimp only
  split
  · exact written.field "name"
  · exact key

theorem spelled_of_hasText {entries : List Value} (written : (Value.list entries).HasText) : Spelled entries :=
  fun _ _ inside _ => spellable_of_hasText (written.inner (inside.subset (List.mem_append_right _ (.head _))))

end Column

end DataGrid
