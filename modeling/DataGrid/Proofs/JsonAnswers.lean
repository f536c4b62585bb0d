import DataGrid.Answer
import DataGrid.Proofs.ActionSteps
import DataGrid.Proofs.NumberTexts
import DataGrid.Proofs.ValueTexts

/-! Answers that are sent as JSON. What is written follows the grammar of JSON documents, unless something among the rows
is written as a number and is none, or an infinite one: then a word stands in the text that the grammar does not know. -/

namespace DataGrid

namespace Value

/-- The double that a value is written as. -/
def double? : Value → Option Double
  | .float x => some x
  | .decimal d => d.toDouble?
  | _ => none

/-- Whether a value is written as a double that is not a number or infinite. -/
def NonFinite (value : Value) : Prop := ∃ x, value.double? = some x ∧ ¬x.IsFinite

/-- Whether nothing about the kind of a value keeps it from being written. -/
def Serializable : Value → Prop
  | .bytes content => (Text.decodeUtf8 false content).isSome = true
  | .decimal d => d.toDouble?.isSome = true
  | .foreign => False
  | _ => True

end Value

namespace Json

open Value

/-! ### Texts -/

theorem isHexDigit_toDigits (n : Nat) : ∀ c ∈ Nat.toDigits 16 n, Text.isHexDigit c = true := by
  have small : ∀ d < 16, Text.isHexDigit (Nat.digitChar d) = true := by decide
  induction n using Nat.strongRecOn with
  | ind n ih =>
    rw [Nat.toDigits_eq_if (by decide)]
    split
    · next single => exact List.forall_mem_singleton.mpr (small n single)
    · refine List.forall_mem_append.mpr ⟨ih (n / 16) (by omega), ?_⟩
      exact List.forall_mem_singleton.mpr (small (n % 16) (Nat.mod_lt n (by decide)))

theorem letter_unitEscape {n : Nat} (short : n < 0x10000) : Letter (unitEscape n) := by
  have size : (Nat.toDigits 16 n).length ≤ 4 := (Nat.length_toDigits_le_iff (by decide) (by decide)).mpr short
  change Letter ('\\' :: 'u' :: (List.replicate (4 - (Nat.toDigits 16 n).length) '0' ++ Nat.toDigits 16 n))
  refine .unit ?_ fun c member => ?_
  · rw [List.length_append, List.length_replicate, Nat.sub_add_cancel size]
  · rcases List.mem_append.mp member with zero | digit
    · rw [List.eq_of_mem_replicate zero]
      decide
    · exact isHexDigit_toDigits n c digit

theorem surrogateOf?_range {c : Char} {n : Nat} (surrogate : Text.surrogateOf? c = some n) :
    0xD800 ≤ n ∧ n ≤ 0xDFFF := by
  unfold Text.surrogateOf? at surrogate
  dsimp only at surrogate
  split at surrogate
  · next inside =>
    rw [Option.some.injEq] at surrogate
    rw [surrogate] at inside
    simpa only [Text.isSurrogate, Bool.and_eq_true, decide_eq_true_eq] using inside
  · cases surrogate

theorem letters_append {first second : List Char} (letters : Letters first) (more : Letters second) :
    Letters (first ++ second) := by
  induction letters with
  | nil => exact more
  | cons first _ ih => rw [List.append_assoc]; exact .cons first ih

theorem Letter.letters {letter : List Char} (one : Letter letter) : Letters letter := by
  simpa using Letters.cons one .nil

theorem known_of_lookup {c letter : Char} (found : escapeLetters.lookup c = some letter) :
    letter ∈ ['"', '\\', '/', 'b', 'f', 'n', 'r', 't'] := by
  have letters : ∀ pair ∈ escapeLetters, pair.2 ∈ ['"', '\\', '/', 'b', 'f', 'n', 'r', 't'] := by decide
  obtain ⟨before, behind, same, -⟩ := List.lookup_eq_some_iff.mp found
  exact letters (c, letter) (by simp [same])

theorem letters_escapeChar (c : Char) : Letters (escapeChar c) := by
  have size : (Text.surrogateOf? c).getD c.toNat = c.toNat ∨
      0xD800 ≤ (Text.surrogateOf? c).getD c.toNat ∧ (Text.surrogateOf? c).getD c.toNat ≤ 0xDFFF := by
    cases surrogate : Text.surrogateOf? c with
    | none => exact .inl rfl
    | some n => exact .inr (surrogateOf?_range surrogate)
  have most : c.toNat < 0xD800 ∨ 0xDFFF < c.toNat ∧ c.toNat < 0x110000 := c.valid
  unfold escapeChar
  generalize (Text.surrogateOf? c).getD c.toNat = n at size
  dsimp only
  split
  · next letter found => exact (Letter.named (known_of_lookup found)).letters
  · next unnamed =>
    split
    · next printed =>
      refine (Letter.plain ?_ ⟨?_, ?_⟩).letters
      · omega
      · rintro rfl
        cases unnamed
      · rintro rfl
        cases unnamed
    · split
      · next short => exact (letter_unitEscape short).letters
      · exact letters_append (letter_unitEscape (by omega)).letters (letter_unitEscape (by omega)).letters

theorem quoted_writeText (s : String) : Quoted (writeText s).toList := by
  have letters : Letters (s.toList.flatMap escapeChar) := by
    induction s.toList with
    | nil => exact .nil
    | cons c rest ih => exact letters_append (letters_escapeChar c) ih
  rw [writeText, String.toList_ofList]
  exact .quotes letters

/-! ### Lists and records -/

theorem intercalate_spaced (first : List Char) (rest : List (List Char)) :
    [',', ' '].intercalate (first :: rest) = [','].intercalate (first :: rest.map (' ' :: ·)) := by
  induction rest generalizing first with
  | nil => rfl
  | cons second more ih =>
    rw [List.intercalate_cons_cons, ih, List.map_cons, List.intercalate_cons_cons]
    cases more <;> simp [List.intercalate_cons_cons]

theorem document_items {texts : List (List Char)} (each : ∀ text ∈ texts, Document text) :
    Document ('[' :: [',', ' '].intercalate texts ++ [']']) := by
  cases texts with
  | nil => exact .list (List.forall_mem_nil _)
  | cons first rest =>
    rw [intercalate_spaced]
    obtain ⟨one, others⟩ := List.forall_mem_cons.mp each
    refine .items (List.cons_ne_nil _ _) (List.forall_mem_cons.mpr ⟨one, List.forall_mem_map.mpr fun text member => ?_⟩)
    exact .before rfl (others text member)

/-- Whether a text is a name and a value, with a colon between them. -/
def IsField (chars : List Char) : Prop := ∃ name value, Quoted name ∧ Document value ∧ chars = name ++ ':' :: value

theorem document_record {texts : List (List Char)} (filled : texts ≠ []) (each : ∀ text ∈ texts, IsField text) :
    Document ('\x7b' :: [','].intercalate texts ++ ['\x7d']) := by
  have pairs : ∃ fields : List (List Char × List Char), texts = fields.map (fun field => field.1 ++ ':' :: field.2) ∧
      (∀ field ∈ fields, Quoted field.1) ∧ ∀ field ∈ fields, Document field.2 := by
    clear filled
    induction texts with
    | nil => exact ⟨[], rfl, nofun, nofun⟩
    | cons text rest ih =>
      obtain ⟨⟨name, value, quoted, document, rfl⟩, others⟩ := List.forall_mem_cons.mp each
      obtain ⟨fields, rfl, names, values⟩ := ih others
      exact ⟨(name, value) :: fields, rfl, List.forall_mem_cons.mpr ⟨quoted, names⟩,
        List.forall_mem_cons.mpr ⟨document, values⟩⟩
  obtain ⟨fields, rfl, names, values⟩ := pairs
  exact .fields (by simpa using filled) names values

theorem document_fields {texts : List (List Char)} (each : ∀ text ∈ texts, IsField text) :
    Document ('\x7b' :: [',', ' '].intercalate texts ++ ['\x7d']) := by
  cases texts with
  | nil => exact .record (List.forall_mem_nil _)
  | cons first rest =>
    rw [intercalate_spaced]
    obtain ⟨one, others⟩ := List.forall_mem_cons.mp each
    refine document_record (List.cons_ne_nil _ _)
      (List.forall_mem_cons.mpr ⟨one, List.forall_mem_map.mpr fun text member => ?_⟩)
    obtain ⟨name, value, quoted, document, rfl⟩ := others text member
    exact ⟨' ' :: name, value, .before rfl quoted, document, rfl⟩

/-- The texts of the fields of a record. -/
def fieldText (depth : Nat) (field : String × Value) : Except Error String :=
  (writeWithin depth field.2).map (writeText field.1 ++ ": " ++ ·)

theorem writeItems_eq (depth : Nat) (items : List Value) : writeItems depth items = items.mapM (writeWithin depth) := by
  induction items with
  | nil => rw [writeItems, List.mapM_nil]; rfl
  | cons item rest ih => rw [writeItems, ih, List.mapM_cons]

theorem writeFields_eq (depth : Nat) (fields : List (String × Value)) :
    writeFields depth fields = fields.mapM (fieldText depth) := by
  induction fields with
  | nil => rw [writeFields, List.mapM_nil]; rfl
  | cons field rest ih =>
    rw [writeFields, ih, List.mapM_cons, fieldText]
    cases writeWithin depth field.2 <;> rfl

/-! ### What a value is written as -/

/-- The ways in which a value is written. -/
inductive Written (depth : Nat) : Value → String → Prop where
  | plain {value : Value} {text : String} (finite : ¬value.NonFinite) (empty : value.parts = [])
    (document : Document text.toList) : Written depth value text
  | word {value : Value} {text : String} (number : value.NonFinite) (known : text ∈ ["NaN", "Infinity", "-Infinity"]) :
    Written depth value text
  | items {items : List Value} {texts : List String} (each : items.mapM (writeWithin (depth + 1)) = .ok texts) :
    Written depth (.list items) (bracketed "[" "]" texts)
  | fields {value : Value} {fields : List (String × Value)} {texts : List String}
    (record : value = .object fields ∨ value = .row fields) (each : fields.mapM (fieldText (depth + 1)) = .ok texts) :
    Written depth value (bracketed "\x7b" "\x7d" texts)

variable {depth : Nat} {value : Value} {text : String}

theorem finite_of_none (none : value.double? = none) : ¬value.NonFinite := by
  rintro ⟨x, double, -⟩
  rw [none] at double
  cases double

theorem written_double {x : Double} (double : value.double? = some x) (empty : value.parts = []) :
    Written depth value (writeDouble x) := by
  cases x with
  | nan => exact .word ⟨_, double, nofun⟩ (.head _)
  | infinite negative => exact .word ⟨_, double, nofun⟩ (by cases negative <;> decide)
  | finite negative m q =>
    have finite : ¬value.NonFinite := by
      rintro ⟨y, other, infinite⟩
      rw [double, Option.some.injEq] at other
      exact infinite (other ▸ trivial)
    exact .plain finite empty (.number (Double.number_text trivial))

theorem written (made : writeWithin depth value = .ok text) : Written depth value text := by
  have quoted {value : Value} (s : String) (none : value.double? = none) (empty : value.parts = []) :
      Written depth value (writeText s) := .plain (finite_of_none none) empty (.text (quoted_writeText s))
  have record {value : Value} {fields : List (String × Value)} (same : value = .object fields ∨ value = .row fields)
      (made : (if depth < stepLimit then (writeFields (depth + 1) fields).map (bracketed "\x7b" "\x7d")
        else .error .tooDeep) = .ok text) : Written depth value text := by
    split at made
    · obtain ⟨texts, each, rfl⟩ := Except.map_ok made
      exact .fields same (writeFields_eq .. ▸ each)
    · cases made
  cases value with
  | null =>
    cases made
    exact .plain (finite_of_none rfl) rfl (.word (by decide))
  | bool flag =>
    cases made
    exact .plain (finite_of_none rfl) rfl (.word (by cases flag <;> decide))
  | int n =>
    rw [writeWithin] at made
    split at made
    · cases made
    · cases made
      exact .plain (finite_of_none rfl) rfl (.number (number_intText n))
  | float x =>
    cases made
    exact written_double rfl rfl
  | text s =>
    cases made
    exact quoted s rfl rfl
  | bytes content =>
    rw [writeWithin] at made
    split at made
    · cases made
      exact quoted _ rfl rfl
    · cases made
  | decimal d =>
    rw [writeWithin] at made
    split at made
    · next x converted =>
      cases made
      exact written_double converted rfl
    · cases made
  | moment point =>
    cases made
    exact quoted _ rfl rfl
  | uuid canonical =>
    cases made
    exact quoted canonical rfl rfl
  | foreign => cases made
  | list items =>
    rw [writeWithin] at made
    split at made
    · obtain ⟨texts, each, rfl⟩ := Except.map_ok made
      exact .items (writeItems_eq .. ▸ each)
    · cases made
  | object fields => exact record (.inl rfl) (by rw [writeWithin] at made; exact made)
  | row fields => exact record (.inr rfl) (by rw [writeWithin] at made; exact made)

/-- Values are written unless an integer in them is too long, a list or record in them too deep, or a part of a kind
that has no text. -/
theorem written_iff (depth : Nat) (value : Value) : (∃ text, writeWithin depth value = .ok text) ↔
    value.WritableWithin depth ∧ ¬value.Holds (¬Serializable ·) := by
  induction value using partsInduction generalizing depth with
  | step value ih =>
    have apart : (value.WritableWithin depth ∧ ¬value.Holds (¬Serializable ·)) ↔ (value.Writable depth ∧ value.Serializable) ∧
        ∀ part ∈ value.parts, ∃ text, writeWithin (depth + 1) part = .ok text := by
      rw [writableWithin_iff, holds_iff, not_or, Classical.not_not]
      constructor
      · rintro ⟨⟨own, each⟩, known, others⟩
        exact ⟨⟨own, known⟩, fun part member =>
          (ih part member _).mpr ⟨each part member, fun holds => others ⟨part, member, holds⟩⟩⟩
      · rintro ⟨⟨own, known⟩, each⟩
        exact ⟨⟨own, fun part member => ((ih part member _).mp (each part member)).1⟩, known,
          fun ⟨part, member, holds⟩ => ((ih part member _).mp (each part member)).2 holds⟩
    have record {fields : List (String × Value)} (same : value.parts = fields.map (·.2)) :
        (∃ text, (if depth < stepLimit then (writeFields (depth + 1) fields).map (bracketed "\x7b" "\x7d")
          else .error .tooDeep) = .ok text) ↔
        depth < stepLimit ∧ ∀ part ∈ value.parts, ∃ text, writeWithin (depth + 1) part = .ok text := by
      rw [same, List.forall_mem_map]
      split
      · next shallow =>
        rw [Except.exists_map_ok, writeFields_eq, Except.mapM_ok_iff]
        simp only [fieldText, Except.exists_map_ok, shallow, true_and]
      · next deep => simp [deep]
    rw [apart]
    cases value with
    | int n => cases long : isTooLong n <;> simp [writeWithin, Writable, Serializable, parts, long]
    | bytes content =>
      cases decoded : Text.decodeUtf8 false content <;> simp [writeWithin, Writable, Serializable, parts, decoded]
    | decimal d => cases converted : d.toDouble? <;> simp [writeWithin, Writable, Serializable, parts, converted]
    | list items =>
      rw [writeWithin]
      split
      · next shallow =>
        rw [Except.exists_map_ok, writeItems_eq, Except.mapM_ok_iff]
        simp [Writable, Serializable, shallow, parts]
      · next deep => simp [Writable, deep]
    | object fields =>
      rw [writeWithin, record rfl]
      simp [Writable, Serializable]
    | row fields =>
      rw [writeWithin, record rfl]
      simp [Writable, Serializable]
    | _ => simp [writeWithin, Writable, Serializable, parts]

/-! ### Documents -/

theorem toList_bracketed (opening closing : String) (texts : List String) :
    (bracketed opening closing texts).toList =
      opening.toList ++ [',', ' '].intercalate (texts.map String.toList) ++ closing.toList := by
  simp [bracketed, String.toList_intercalate]

theorem fieldText_ok {field : String × Value} (made : fieldText depth field = .ok text) :
    ∃ written, writeWithin depth field.2 = .ok written ∧
      text.toList = (writeText field.1).toList ++ ':' :: ' ' :: written.toList := by
  obtain ⟨written, own, rfl⟩ := Except.map_ok made
  exact ⟨written, own, by simp⟩

theorem parts_of_record {fields : List (String × Value)} (record : value = .object fields ∨ value = .row fields) :
    value.parts = fields.map (·.2) ∧ value.double? = none := by
  rcases record with rfl | rfl <;> exact ⟨rfl, rfl⟩

/-- A value without words for numbers is written as a document. -/
theorem document_written (made : writeWithin depth value = .ok text) (finite : ¬value.Holds NonFinite) :
    Document text.toList := by
  induction value using partsInduction generalizing depth text with
  | step value ih =>
    have inner {part : Value} (member : part ∈ value.parts) : ¬part.Holds NonFinite :=
      fun holds => finite (holds.outer member)
    cases written made with
    | plain _ _ document => exact document
    | word number => exact absurd (.self number) finite
    | items each =>
      rw [toList_bracketed]
      refine document_items (List.forall_mem_map.mpr fun text member => ?_)
      obtain ⟨item, among, one⟩ := Except.mapM_mem each text member
      exact ih item among one (inner among)
    | fields record each =>
      rw [toList_bracketed]
      refine document_fields (List.forall_mem_map.mpr fun text member => ?_)
      obtain ⟨field, among, one⟩ := Except.mapM_mem each text member
      obtain ⟨written, own, spelling⟩ := fieldText_ok one
      have part : field.2 ∈ value.parts := (parts_of_record record).1 ▸ List.mem_map_of_mem among
      exact ⟨_, _, quoted_writeText field.1, .before rfl (ih field.2 part own (inner part)), spelling⟩

/-! ### Words for numbers -/

/-- Whether a text ends outside of quoted texts, and has a character there that is not usual if there is a reason. -/
def Exposes (reason : Prop) (chars : List Char) : Prop :=
  ∃ shown, Shows chars shown ∧ (reason → ∃ c ∈ shown, isUsual c = false)

namespace Exposes

variable {reason other : Prop} {chars others : List Char}

theorem mono (exposes : Exposes reason chars) (less : other → reason) : Exposes other chars := by
  obtain ⟨shown, shows, strange⟩ := exposes
  exact ⟨shown, shows, fun holds => strange (less holds)⟩

theorem spelled (spelled : Spelled chars) : Exposes False chars := by
  obtain ⟨shown, shows, -⟩ := spelled
  exact ⟨shown, shows, False.elim⟩

theorem append (first : Exposes reason chars) (second : Exposes other others) :
    Exposes (reason ∨ other) (chars ++ others) := by
  obtain ⟨shown, shows, strange⟩ := first
  obtain ⟨more, shows', strange'⟩ := second
  refine ⟨shown ++ more, shows.append shows', ?_⟩
  rintro (holds | holds)
  · obtain ⟨c, member, unusual⟩ := strange holds
    exact ⟨c, List.mem_append_left _ member, unusual⟩
  · obtain ⟨c, member, unusual⟩ := strange' holds
    exact ⟨c, List.mem_append_right _ member, unusual⟩

theorem between (inner : Exposes reason chars) {opening closing : List Char} (first : Spelled opening)
    (last : Spelled closing) : Exposes reason (opening ++ chars ++ closing) :=
  (((spelled first).append inner).append (spelled last)).mono fun holds => .inl (.inr holds)

theorem mapM {α : Type} {step : α → Except Error String} {reason : α → Prop} {items : List α} {texts : List String}
    (each : ∀ item ∈ items, ∀ text, step item = .ok text → Exposes (reason item) text.toList)
    (made : items.mapM step = .ok texts) :
    Exposes (∃ item ∈ items, reason item) ([',', ' '].intercalate (texts.map String.toList)) := by
  have blank : Spelled [',', ' '] := .usual (by decide)
  induction items generalizing texts with
  | nil =>
    cases made
    exact ⟨[], .nil, nofun⟩
  | cons item rest ih =>
    obtain ⟨one, each⟩ := List.forall_mem_cons.mp each
    rw [List.mapM_cons] at made
    obtain ⟨first, own, made⟩ := Except.bind_ok made
    obtain ⟨others, more, same⟩ := Except.bind_ok made
    cases same
    have head := one first own
    have tail := ih each more
    cases others with
    | nil => simpa using head.append tail
    | cons second others =>
      rw [List.map_cons, List.map_cons, List.intercalate_cons_cons]
      refine ((head.append (spelled blank)).append tail).mono ?_
      simp

end Exposes

/-- Something that is not finite among what is written can be seen outside of quoted texts. -/
theorem exposes_written (made : writeWithin depth value = .ok text) : Exposes (value.Holds NonFinite) text.toList := by
  induction value using partsInduction generalizing depth text with
  | step value ih =>
    cases written made with
    | plain finite empty document =>
      refine (Exposes.spelled document.spelled).mono fun holds => ?_
      rcases holds_iff.mp holds with own | ⟨part, member, -⟩
      · exact finite own
      · rw [empty] at member
        cases member
    | word number known =>
      have words : ["NaN", "Infinity", "-Infinity"].all (fun word => word.toList.all (· ≠ '"')) = true ∧
          ["NaN", "Infinity", "-Infinity"].all (fun word => word.toList.any (!isUsual ·)) = true := by decide
      have plain := List.all_eq_true.mp words.1 text known
      have strange := List.all_eq_true.mp words.2 text known
      exact ⟨_, .plain fun quote => by simpa using List.all_eq_true.mp plain '"' quote, fun _ => by simpa using strange⟩
    | items each =>
      rw [toList_bracketed]
      refine Exposes.between ?_ (.usual (by decide)) (.usual (by decide))
      refine (Exposes.mapM (fun item member text one => ih item member one) each).mono fun holds => ?_
      rcases holds_iff.mp holds with ⟨x, double, -⟩ | ⟨part, member, inner⟩
      · cases double
      · exact ⟨part, member, inner⟩
    | @fields _ fields _ record each =>
      obtain ⟨parts, none⟩ := parts_of_record record
      rw [toList_bracketed]
      refine Exposes.between ?_ (.usual (by decide)) (.usual (by decide))
      have field (field : String × Value) (member : field ∈ fields) (text : String)
          (one : fieldText (depth + 1) field = .ok text) : Exposes (field.2.Holds NonFinite) text.toList := by
        obtain ⟨written, own, spelling⟩ := fieldText_ok one
        have colon : Spelled [':', ' '] := .usual (by decide)
        have name := (quoted_writeText field.1).spelled.append colon
        have value := ih field.2 (parts ▸ List.mem_map_of_mem member) own
        rw [spelling]
        simpa using (Exposes.spelled name).append value
      refine (Exposes.mapM field each).mono fun holds => ?_
      rcases holds_iff.mp holds with own | ⟨part, member, inner⟩
      · exact absurd own (finite_of_none none)
      · obtain ⟨field, among, rfl⟩ := List.mem_map.mp (parts ▸ member)
        exact ⟨field, among, inner⟩

/-- A text is written as a document exactly where no double in the value is a word. -/
theorem document_iff (made : writeWithin depth value = .ok text) :
    Document text.toList ↔ ¬value.Holds NonFinite := by
  refine ⟨fun document holds => ?_, document_written made⟩
  obtain ⟨shown, shows, strange⟩ := exposes_written made
  obtain ⟨other, shows', usual⟩ := document.spelled
  obtain ⟨c, member, unusual⟩ := strange holds
  rw [shows.unique shows'] at member
  rw [usual c member] at unusual
  cases unusual

end Json

namespace Answer

open Value

variable (answer : Answer)

/-- What is no count in an answer, and neither a list nor a record, is in a field of its rows. -/
theorem not_holds_toValue {kind : Value → Prop} (null : ¬kind .null) (int : ∀ n, ¬kind (.int n))
    (list : ∀ items, ¬kind (.list items)) (object : ∀ fields, ¬kind (.object fields)) :
    ¬answer.toValue.Holds kind ↔ ∀ row ∈ answer.rows, ∀ field ∈ row, ¬field.2.Holds kind := by
  have count (n : Int) : ¬(Value.int n).Holds kind := not_holds_iff.mpr ⟨int n, List.forall_mem_nil _⟩
  have filtered : ¬(answer.filtered.elim .null .int : Value).Holds kind := by
    cases answer.filtered with
    | none => exact not_holds_iff.mpr ⟨null, List.forall_mem_nil _⟩
    | some n => exact count n
  have row (fields : Row) : ¬(Value.object fields).Holds kind ↔ ∀ field ∈ fields, ¬field.2.Holds kind := by
    rw [not_holds_iff, parts, List.forall_mem_map, and_iff_right (object fields)]
  have rows : ¬(Value.list (answer.rows.map .object)).Holds kind ↔
      ∀ row ∈ answer.rows, ∀ field ∈ row, ¬field.2.Holds kind := by
    rw [not_holds_iff, parts, List.forall_mem_map, and_iff_right (list _)]
    exact forall₂_congr fun fields _ => row fields
  rw [toValue, record, row]
  simp [count, filtered, rows]

/-- An answer is written unless an integer in it is too long, a list or record in it too deep, or a value in its rows of
a kind that has no text. What is written is a JSON document exactly where all floats in the rows are finite, and all
decimals as the doubles that they are written as. -/
theorem toJson_document :
    ((∃ text, answer.toJson = .ok text) ↔
      answer.toValue.HasText ∧ ∀ row ∈ answer.rows, ∀ field ∈ row, ¬field.2.Holds (¬Serializable ·)) ∧
    ∀ text, answer.toJson = .ok text →
      (Json.Document text.toList ↔ ∀ row ∈ answer.rows, ∀ field ∈ row, ¬field.2.Holds NonFinite) := by
  have finite {value : Value} (none : value.double? = none) : ¬value.NonFinite := Json.finite_of_none none
  constructor
  · rw [toJson, Json.write, Json.written_iff, hasText_iff, not_holds_toValue answer] <;> simp [Serializable]
  · intro text made
    rw [Json.document_iff made, not_holds_toValue answer (finite rfl) (fun _ => finite rfl) (fun _ => finite rfl)
      fun _ => finite rfl]

private def priced (price : Decimal) : Answer := ⟨1, 1, some 1, [[("price", .decimal price)]]⟩

private def pricedText (price : String) : String :=
  "\x7b\"draw\": 1, \"recordsTotal\": 1, \"recordsFiltered\": 1, \"data\": [\x7b\"price\": " ++ price ++ "\x7d]\x7d"

private theorem toJson_priced {price : Decimal} {x : Double} (converted : price.toDouble? = some x)
    (text : bracketed "\x7b" "\x7d" [Json.writeText "draw" ++ ": " ++ intText 1,
      Json.writeText "recordsTotal" ++ ": " ++ intText 1, Json.writeText "recordsFiltered" ++ ": " ++ intText 1,
      Json.writeText "data" ++ ": " ++ bracketed "[" "]"
        [bracketed "\x7b" "\x7d" [Json.writeText "price" ++ ": " ++ Json.writeDouble x]]] =
          pricedText (Json.writeDouble x)) :
    (priced price).toJson = .ok (pricedText (Json.writeDouble x)) := by
  have short : isTooLong 1 = false := by decide +kernel
  have shallow : 0 < stepLimit ∧ 1 < stepLimit ∧ 2 < stepLimit := by decide
  rw [← text]
  simp only [toJson, Json.write, toValue, record, priced, Option.elim_some, List.map_cons, List.map_nil,
    Json.writeWithin, Json.writeFields, Json.writeItems, shallow, short, converted, if_true, Bool.false_eq_true, if_false,
    Nat.zero_add, Nat.reduceAdd]
  rfl

/-- One and a half, as a double. -/
private def half : Double := .finite false 0x18000000000000 (-52)

theorem toJson_document_prices :
    (priced (.finite false 150 (-2))).toJson = .ok (pricedText "1.5") ∧ Json.Document (pricedText "1.5").toList ∧
      (priced (.nan false false "")).toJson = .ok (pricedText "NaN") ∧ ¬Json.Document (pricedText "NaN").toList := by
  have converted : Decimal.toDouble? (.finite false 150 (-2)) = some half := by decide +kernel
  have digits : Json.writeDouble half = "1.5" := by decide +kernel
  have made : (priced (.finite false 150 (-2))).toJson = .ok (pricedText "1.5") :=
    digits ▸ toJson_priced converted (by decide +kernel)
  have word : Json.writeDouble .nan = "NaN" := rfl
  have none : (priced (.nan false false "")).toJson = .ok (pricedText "NaN") :=
    word ▸ toJson_priced rfl (by decide +kernel)
  have finite : ¬(Value.decimal (.finite false 150 (-2))).NonFinite := by
    rintro ⟨x, double, infinite⟩
    have same : half = x := Option.some.inj (converted.symm.trans double)
    exact infinite (same ▸ trivial)
  refine ⟨made, ((toJson_document _).2 _ made).mpr ?_, none, fun document => ?_⟩
  · simp only [priced, List.forall_mem_singleton]
    exact not_holds_iff.mpr ⟨finite, List.forall_mem_nil _⟩
  · exact ((toJson_document _).2 _ none).mp document _ (.head _) _ (.head _) (.self ⟨.nan, rfl, nofun⟩)

end Answer

end DataGrid
