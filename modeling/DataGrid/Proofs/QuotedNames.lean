import DataGrid.Proofs.ColumnReading
import Mathlib.Data.List.TakeDrop

/-! Reading names back. A name is its segments with points between them, each as it is or between quotes. What is
written for a name is read as exactly its segments, whatever stands behind it, so no segment leaves its place and no two
names are written alike. -/

namespace DataGrid

namespace Text

def doubled (c : Char) (chars : List Char) : List Char := chars.flatMap fun d => if d = c then [d, d] else [d]

/-- A text in which a doubled character counts once. -/
def undoubled (c : Char) : List Char → List Char
  | d :: e :: rest => if d = c ∧ e = c then c :: undoubled c rest else d :: undoubled c (e :: rest)
  | chars => chars

/-- What a backslash and the character behind it mean together. The two signs of a pattern keep their backslash. -/
def escapeMeaning : Char → List Char
  | '0' => [Char.ofNat 0]
  | 'b' => [Char.ofNat 8]
  | 'n' => ['\n']
  | 'r' => ['\r']
  | 't' => ['\t']
  | 'Z' => [Char.ofNat 26]
  | '%' => ['\\', '%']
  | '_' => ['\\', '_']
  | c => [c]

/-- The text up to the quote that closes it, and what follows that quote. A doubled quote is one quote inside; where
there are escapes, a backslash changes what the character behind it means. -/
def readQuoted (quote : Char) (escapes : Bool) : List Char → Option (List Char × List Char)
  | [] => none
  | [c] => if c = quote then some ([], []) else none
  | c :: d :: rest =>
    if c = quote then
      if d = quote then (readQuoted quote escapes rest).map (Prod.map (quote :: ·) id) else some ([], d :: rest)
    else if escapes ∧ c = '\\' then (readQuoted quote escapes rest).map (Prod.map (escapeMeaning d ++ ·) id)
    else (readQuoted quote escapes (d :: rest)).map (Prod.map (c :: ·) id)

/-- What escapes leave of a text: a backslash is doubled. -/
def escaped (escapes : Bool) (chars : List Char) : List Char := if escapes then doubled '\\' chars else chars

variable {c quote : Char} {escapes : Bool}

theorem doubled_same (chars : List Char) : doubled c (c :: chars) = c :: c :: doubled c chars := by
  rw [doubled, List.flatMap_cons, if_pos rfl]
  rfl

theorem doubled_other {d : Char} (other : d ≠ c) (chars : List Char) : doubled c (d :: chars) = d :: doubled c chars := by
  rw [doubled, List.flatMap_cons, if_neg other]
  rfl

theorem undoubled_other {d : Char} (other : d ≠ c) (chars : List Char) :
    undoubled c (d :: chars) = d :: undoubled c chars := by
  cases chars with
  | nil => rfl
  | cons e rest => rw [undoubled, if_neg fun both => other both.1]

theorem undoubled_doubled (c : Char) (chars : List Char) : undoubled c (doubled c chars) = chars := by
  induction chars with
  | nil => rfl
  | cons d rest ih =>
    by_cases same : d = c
    · subst same
      rw [doubled_same, undoubled, if_pos ⟨rfl, rfl⟩, ih]
    · rw [doubled_other same, undoubled_other same, ih]

theorem escaped_other (bare : ¬(escapes = true ∧ c = '\\')) (chars : List Char) :
    escaped escapes (c :: chars) = c :: escaped escapes chars := by
  cases escapes with
  | false => rfl
  | true => exact doubled_other (fun slash => bare ⟨rfl, slash⟩) chars

theorem readQuoted_plain (other : c ≠ quote) (bare : ¬(escapes = true ∧ c = '\\')) (chars : List Char) :
    readQuoted quote escapes (c :: chars) = (readQuoted quote escapes chars).map (Prod.map (c :: ·) id) := by
  cases chars with
  | nil => simp [readQuoted, other]
  | cons d rest => rw [readQuoted, if_neg other, if_neg bare]

/-- A quote that is not followed by another one closes the text. -/
theorem readQuoted_close {rest : List Char} (after : rest.head? ≠ some quote) :
    readQuoted quote escapes (quote :: rest) = some ([], rest) := by
  cases rest with
  | nil => simp [readQuoted]
  | cons d more =>
    have other : d ≠ quote := fun same => after (congrArg some same)
    rw [readQuoted, if_pos rfl, if_neg other]

variable (quote escapes) in
/-- A text with its quotes doubled, and its backslashes where they escape, is read up to the quote behind it. -/
theorem readQuoted_doubled (apart : escapes = true → quote ≠ '\\') (chars : List Char) {rest : List Char}
    (after : rest.head? ≠ some quote) :
    readQuoted quote escapes (doubled quote (escaped escapes chars) ++ quote :: rest) = some (chars, rest) := by
  induction chars with
  | nil => cases escapes <;> exact readQuoted_close after
  | cons c chars ih =>
    by_cases slash : escapes = true ∧ c = '\\'
    · obtain ⟨rfl, rfl⟩ := slash
      have other : '\\' ≠ quote := (apart rfl).symm
      rw [escaped, if_pos rfl] at ih ⊢
      rw [doubled_same, doubled_other other, doubled_other other]
      simp [readQuoted, other, ih, escapeMeaning]
    · rw [escaped_other slash]
      by_cases same : c = quote
      · subst same
        rw [doubled_same]
        simp [readQuoted, ih]
      · rw [doubled_other same, List.cons_append, readQuoted_plain same slash, ih]
        rfl

end Text

namespace Sql

/-- The signs at the front of a text that make a name without quotes; one line feed may end them. -/
def readBare (chars : List Char) : List Char × List Char :=
  match chars.span isLegalChar with
  | (name, '\n' :: rest) => (name ++ ['\n'], rest)
  | found => found

namespace Dialect

/-- What a driver makes of a text in which percent signs are doubled. -/
def unpercent (dialect : Dialect) (chars : List Char) : List Char :=
  if dialect.doublesPercent then Text.undoubled '%' chars else chars

/-- The segment at the front of a text, without its quotes, and what follows it. -/
def readSegment (dialect : Dialect) : List Char → Option (List Char × List Char)
  | [] => none
  | c :: rest =>
    if c = dialect.quote then (Text.readQuoted dialect.quote false rest).map (Prod.map dialect.unpercent id)
    else if isLegalChar c then some (readBare (c :: rest))
    else none

/-- The segments at the front of a text with points between them; `fuel` bounds how many there are. -/
def readSegments (dialect : Dialect) : (fuel : Nat) → List Char → Option (List (List Char) × List Char)
  | 0, _ => none
  | fuel + 1, chars =>
    match dialect.readSegment chars with
    | none => none
    | some (segment, '.' :: rest) => (dialect.readSegments fuel rest).map (Prod.map (segment :: ·) id)
    | some (segment, rest) => some ([segment], rest)

/-- The segments of the name at the front of a text, and what follows it. -/
def readName (dialect : Dialect) (chars : List Char) : Option (List (List Char) × List Char) :=
  dialect.readSegments chars.length chars

/-- Whether a segment can stand for itself: its signs are legal and no forbidden one comes first, a line feed behind
them aside, and it is no reserved word. -/
structure Bare (dialect : Dialect) (segment : List Char) : Prop where
  legal : ∃ name, name ≠ [] ∧ (∀ c ∈ name, isLegalChar c = true) ∧ (segment = name ∨ segment = name ++ ['\n'])
  initial : ∀ c ∈ segment.head?, dialect.isForbiddenInitial c = false
  free : String.ofList segment ∉ dialect.reserved

/-- Whether a text is a segment between quotes that end at its last sign, and nowhere before. -/
structure Quotes (dialect : Dialect) (segment text : List Char) : Prop where
  inside : text = dialect.quote :: Text.doubled dialect.quote (dialect.percent segment) ++ [dialect.quote]
  closes : ∀ rest, rest.head? ≠ some dialect.quote →
    Text.readQuoted dialect.quote false (text.tail ++ rest) = some (dialect.percent segment, rest)

def Writes (dialect : Dialect) (segment text : List Char) : Prop :=
  dialect.Bare segment ∧ text = segment ∨ dialect.Quotes segment text

/-- Whether a text behind a segment leaves it as it is: no sign of a segment comes first. -/
def EndsSegment (dialect : Dialect) (rest : List Char) : Prop :=
  ∀ c ∈ rest.head?, c ≠ '\n' ∧ c ≠ dialect.quote ∧ isLegalChar c = false

/-- Whether a text behind a name leaves the name as it is. -/
def EndsName (dialect : Dialect) (rest : List Char) : Prop := dialect.EndsSegment rest ∧ rest.head? ≠ some '.'

variable {dialect : Dialect}

theorem unpercent_percent (dialect : Dialect) (chars : List Char) : dialect.unpercent (dialect.percent chars) = chars := by
  rw [unpercent, percent_eq]
  split
  · exact Text.undoubled_doubled '%' chars
  · rfl

theorem bare_of_unquoted {segment : List Char} (unquoted : dialect.needsQuotes segment = false) :
    dialect.Bare segment := by
  unfold needsQuotes at unquoted
  simp only [Bool.or_eq_false_iff, Bool.not_eq_false', bne_eq_false_iff_eq] at unquoted
  obtain ⟨⟨⟨free, initial⟩, legal⟩, lower⟩ := unquoted
  refine ⟨?_, ?_, ?_⟩
  · unfold isLegal at legal
    split at legal
    · next rest ended =>
      simp only [Bool.and_eq_true, Bool.not_eq_true', List.isEmpty_eq_false_iff, List.all_eq_true] at legal
      refine ⟨rest.reverse, legal.1, legal.2, .inr ?_⟩
      rw [← List.reverse_reverse segment, ended, List.reverse_cons]
    · simp only [Bool.and_eq_true, Bool.not_eq_true', List.isEmpty_eq_false_iff, List.all_eq_true] at legal
      exact ⟨segment, legal.1, legal.2, .inl rfl⟩
  · cases segment with
    | nil => exact nofun
    | cons c rest =>
      rintro _ ⟨⟩
      exact initial
  · rw [lower, List.contains_eq_mem, decide_eq_false_iff_not] at free
    exact free

theorem quoteSegment_quotes (delimits : dialect.Delimits) (segment : List Char) :
    dialect.Quotes segment (dialect.quoteSegment segment) := by
  have inside : dialect.quoteSegment segment =
      dialect.quote :: Text.doubled dialect.quote (dialect.percent segment) ++ [dialect.quote] := by
    rw [quoteSegment, percent_doubled delimits]
    rfl
  refine ⟨inside, fun rest after => ?_⟩
  have unescaped : false = true → dialect.quote ≠ '\\' := fun same => absurd same Bool.false_ne_true
  have read := Text.readQuoted_doubled dialect.quote false unescaped (dialect.percent segment) after
  rw [inside]
  simpa [Text.escaped] using read

theorem segment_writes (delimits : dialect.Delimits) (segment : List Char) :
    dialect.Writes segment (dialect.segment segment) := by
  unfold Dialect.segment
  split
  · exact .inr (quoteSegment_quotes delimits segment)
  · next unquoted => exact .inl ⟨bare_of_unquoted (Bool.eq_false_iff.mpr unquoted), rfl⟩

theorem EndsSegment.point (delimits : dialect.Delimits) (rest : List Char) : dialect.EndsSegment ('.' :: rest) := by
  rintro _ ⟨⟩
  exact ⟨by decide, delimits.point.symm, by decide⟩

theorem readBare_segment {segment rest : List Char} (bare : dialect.Bare segment) (ends : dialect.EndsSegment rest) :
    readBare (segment ++ rest) = (segment, rest) := by
  obtain ⟨name, _, legal, same⟩ := bare.legal
  have span (more : List Char) (stops : ∀ c ∈ more.head?, isLegalChar c = false) :
      (name ++ more).span isLegalChar = (name, more) := by
    rw [List.span_eq_takeWhile_dropWhile, List.takeWhile_append_of_pos legal, List.dropWhile_append_of_pos legal]
    cases more with
    | nil => simp
    | cons c more => simp [stops c rfl]
  rcases same with rfl | rfl
  · unfold readBare
    rw [span rest fun c first => (ends c first).2.2]
    split
    · next found =>
      cases found
      exact absurd rfl (ends '\n' rfl).1
    · rfl
  · unfold readBare
    rw [List.append_assoc, span (['\n'] ++ rest) (by rintro _ ⟨⟩; decide)]
    rfl

theorem readSegment_segment (delimits : dialect.Delimits) (segment : List Char) {rest : List Char}
    (ends : dialect.EndsSegment rest) : dialect.readSegment (dialect.segment segment ++ rest) = some (segment, rest) := by
  rcases segment_writes delimits segment with ⟨bare, same⟩ | quotes
  · rw [same]
    obtain ⟨name, some, legal, form⟩ := bare.legal
    obtain ⟨c, more, rfl⟩ := List.exists_cons_of_ne_nil some
    obtain ⟨others, rfl⟩ : ∃ others, segment = c :: others := by
      rcases form with rfl | rfl
      · exact ⟨_, rfl⟩
      · exact ⟨_, rfl⟩
    have first : isLegalChar c = true := legal c (.head _)
    have other : c ≠ dialect.quote := by
      rintro rfl
      rw [delimits.illegal] at first
      cases first
    have read := readBare_segment bare ends
    rw [List.cons_append] at read ⊢
    rw [readSegment, if_neg other, if_pos first, read]
  · have after : rest.head? ≠ some dialect.quote := fun same => (ends _ same).2.1 rfl
    have read := quotes.closes rest after
    rw [quotes.inside] at read ⊢
    rw [List.cons_append, List.cons_append, readSegment, if_pos rfl]
    rw [List.cons_append, List.tail_cons] at read
    rw [read, Option.map_some, Prod.map_apply, unpercent_percent]
    rfl

theorem segment_ne_nil (delimits : dialect.Delimits) (segment : List Char) : dialect.segment segment ≠ [] := by
  rcases segment_writes delimits segment with ⟨bare, same⟩ | quotes
  · obtain ⟨name, some, _, rfl | rfl⟩ := bare.legal
    · rwa [same]
    · simp [same]
  · simp [quotes.inside]

/-- Segments with points between them are read back, by as many steps as there are segments. -/
theorem readSegments_segments (delimits : dialect.Delimits) {segments : List (List Char)} (filled : segments ≠ [])
    {rest : List Char} (ends : dialect.EndsName rest) {fuel : Nat} (enough : segments.length ≤ fuel) :
    dialect.readSegments fuel (['.'].intercalate (segments.map dialect.segment) ++ rest) = some (segments, rest) := by
  induction segments generalizing fuel with
  | nil => exact absurd rfl filled
  | cons first others ih =>
    obtain ⟨fuel, rfl⟩ := Nat.exists_eq_add_one_of_ne_zero (Nat.ne_zero_of_lt enough)
    rw [List.length_cons, Nat.add_le_add_iff_right] at enough
    cases others with
    | nil =>
      rw [List.map_singleton, List.intercalate_singleton, readSegments, readSegment_segment delimits first ends.1]
      cases rest with
      | nil => rfl
      | cons c more =>
        split
        · contradiction
        · next found =>
          cases found
          exact absurd rfl ends.2
        · next found =>
          cases found
          rfl
    | cons second more =>
      have tail := ih (List.cons_ne_nil _ _) enough
      rw [List.map_cons, List.map_cons, List.intercalate_cons_cons, List.append_assoc, List.append_assoc,
        List.singleton_append, readSegments, readSegment_segment delimits first (.point delimits _)]
      rw [List.map_cons] at tail
      simp only [tail, Option.map_some]
      rfl

theorem length_intercalate (delimits : dialect.Delimits) (segments : List (List Char)) :
    segments.length ≤ (['.'].intercalate (segments.map dialect.segment)).length := by
  induction segments with
  | nil => exact Nat.zero_le _
  | cons first others ih =>
    have filled : 1 ≤ (dialect.segment first).length := List.length_pos_of_ne_nil (segment_ne_nil delimits first)
    cases others with
    | nil => simpa using filled
    | cons second more =>
      rw [List.map_cons, List.map_cons, List.intercalate_cons_cons, List.length_append, List.length_append]
      rw [List.map_cons] at ih
      simp only [List.length_cons] at ih ⊢
      omega

/-- What is written for a name is read as its segments, up to a text that does not go on with it. -/
theorem readName_identifierChars (delimits : dialect.Delimits) (name : List Char) {rest : List Char}
    (ends : dialect.EndsName rest) :
    dialect.readName (dialect.identifierChars name ++ rest) = some (Text.segments '.' name, rest) := by
  refine readSegments_segments delimits (Text.segments_ne_nil '.' name) ends ?_
  rw [List.length_append]
  exact Nat.le_trans (length_intercalate delimits _) (Nat.le_add_right ..)

end Dialect

namespace Adapter

variable {adapter : Adapter}

/-- The name of a column is written segment by segment, each as it is or between quotes that nothing in it can close; it
is read as exactly its segments, and no other name is written like it. -/
theorem quoteIdentifier_reads (known : adapter.dialect ∈ Dialect.all) (name : String) :
    (∃ texts, (adapter.quoteIdentifier name).toList = ['.'].intercalate texts ∧
        List.Forall₂ adapter.dialect.Writes (Text.segments '.' name.toList) texts) ∧
      (∀ rest, adapter.dialect.EndsName rest →
        adapter.dialect.readName ((adapter.quoteIdentifier name).toList ++ rest) =
          some (Text.segments '.' name.toList, rest)) ∧
      ∀ other, adapter.quoteIdentifier other = adapter.quoteIdentifier name → other = name := by
  have delimits := Dialect.all_delimit adapter.dialect known
  have chars : (adapter.quoteIdentifier name).toList = adapter.dialect.identifierChars name.toList :=
    String.toList_ofList
  rw [chars]
  refine ⟨⟨_, rfl, ?_⟩, ?_, ?_⟩
  · rw [List.forall₂_map_right_iff, List.forall₂_same]
    exact fun segment _ => Dialect.segment_writes delimits segment
  · exact fun rest ends => Dialect.readName_identifierChars delimits name.toList ends
  · exact fun other same => Dialect.identifier_injective delimits.toSeparates same

/-- A quote and a percent sign inside a name: both are doubled, and the direction behind the name stays outside. -/
theorem quoteIdentifier_reads_doubled :
    let adapter := Adapter.ofDialect .postgresql false
    adapter.dialect ∈ Dialect.all ∧
      adapter.quoteIdentifier "orders.a\"b%c" = "orders.\"a\"\"b%%c\"" ∧
      adapter.dialect.readName "orders.\"a\"\"b%%c\" desc".toList =
        some (["orders".toList, "a\"b%c".toList], " desc".toList) := by
  intro adapter
  have known : adapter.dialect ∈ Dialect.all := by simp [adapter, ofDialect, Dialect.all]
  have written : adapter.quoteIdentifier "orders.a\"b%c" = "orders.\"a\"\"b%%c\"" := by decide +kernel
  have ends : adapter.dialect.EndsName " desc".toList := by
    refine ⟨?_, by decide⟩
    rintro _ ⟨⟩
    decide
  refine ⟨known, written, ?_⟩
  have read := (quoteIdentifier_reads known "orders.a\"b%c").2.1 " desc".toList ends
  rwa [written] at read

end Adapter

end Sql

end DataGrid
