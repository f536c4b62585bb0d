import DataGrid.Text.Hex

/-! The grammar of JSON documents. Outside of its quoted texts a document is spelled with few letters, so a word like
`NaN` or `Infinity` can not stand there. -/

namespace DataGrid.Json

def isBlank (c : Char) : Bool := c = ' ' || c = '\t' || c = '\n' || c = '\r'

/-! ### Numbers -/

structure Digits (chars : List Char) : Prop where
  filled : chars ≠ []
  each : ∀ c ∈ chars, c.isDigit = true

/-- Digits that begin with a zero only where it stands alone. -/
structure WholeDigits (chars : List Char) : Prop extends Digits chars where
  front : chars.head? = some '0' → chars = ['0']

inductive Fraction : List Char → Prop where
  | none : Fraction []
  | point {chars} (digits : Digits chars) : Fraction ('.' :: chars)

inductive Exponent : List Char → Prop where
  | none : Exponent []
  | power {mark sign chars} (marked : mark = 'e' ∨ mark = 'E') (signed : sign = [] ∨ sign = ['+'] ∨ sign = ['-'])
    (digits : Digits chars) : Exponent (mark :: sign ++ chars)

inductive Unsigned : List Char → Prop where
  | parts {chars decimals power} (whole : WholeDigits chars) (fraction : Fraction decimals) (exponent : Exponent power) :
    Unsigned (chars ++ decimals ++ power)

inductive Number : List Char → Prop where
  | positive {chars} (unsigned : Unsigned chars) : Number chars
  | negative {chars} (unsigned : Unsigned chars) : Number ('-' :: chars)

/-! ### Texts -/

/-- What stands for a character of a text, or for half of one. -/
inductive Letter : List Char → Prop where
  | plain {c : Char} (printed : 0x20 ≤ c.toNat) (other : c ≠ '"' ∧ c ≠ '\\') : Letter [c]
  | named {c : Char} (known : c ∈ ['"', '\\', '/', 'b', 'f', 'n', 'r', 't']) : Letter ['\\', c]
  | unit {chars : List Char} (four : chars.length = 4) (each : ∀ c ∈ chars, Text.isHexDigit c = true) :
    Letter ('\\' :: 'u' :: chars)

inductive Letters : List Char → Prop where
  | nil : Letters []
  | cons {letter rest} (first : Letter letter) (more : Letters rest) : Letters (letter ++ rest)

/-- A text in double quotes, with blanks around it. -/
inductive Quoted : List Char → Prop where
  | quotes {content} (letters : Letters content) : Quoted ('"' :: content ++ ['"'])
  | before {c chars} (blank : isBlank c = true) (quoted : Quoted chars) : Quoted (c :: chars)
  | behind {c chars} (blank : isBlank c = true) (quoted : Quoted chars) : Quoted (chars ++ [c])

/-! ### Documents -/

/-- A value with blanks around it. -/
inductive Document : List Char → Prop where
  | word {chars} (known : chars ∈ ["null", "true", "false"].map String.toList) : Document chars
  | number {chars} (number : Number chars) : Document chars
  | text {chars} (quoted : Quoted chars) : Document chars
  | list {blanks} (each : ∀ c ∈ blanks, isBlank c = true) : Document ('[' :: blanks ++ [']'])
  | items {items} (filled : items ≠ []) (each : ∀ item ∈ items, Document item) :
    Document ('[' :: [','].intercalate items ++ [']'])
  | record {blanks} (each : ∀ c ∈ blanks, isBlank c = true) : Document ('\x7b' :: blanks ++ ['\x7d'])
  | fields {fields : List (List Char × List Char)} (filled : fields ≠ []) (names : ∀ field ∈ fields, Quoted field.1)
    (each : ∀ field ∈ fields, Document field.2) :
    Document ('\x7b' :: [','].intercalate (fields.map fun field => field.1 ++ ':' :: field.2) ++ ['\x7d'])
  | before {c chars} (blank : isBlank c = true) (document : Document chars) : Document (c :: chars)
  | behind {c chars} (blank : isBlank c = true) (document : Document chars) : Document (chars ++ [c])

/-! ### Outside of quoted texts -/

/-- Where a character stands: outside of quoted texts, in one, or behind a backslash in one. -/
inductive Place where
  | outside | quoted | escaped

/-- The characters outside of quoted texts. -/
def bare : Place → List Char → List Char
  | _, [] => []
  | .outside, c :: rest => if c = '"' then bare .quoted rest else c :: bare .outside rest
  | .quoted, c :: rest =>
    if c = '"' then bare .outside rest else if c = '\\' then bare .escaped rest else bare .quoted rest
  | .escaped, _ :: rest => bare .quoted rest

/-- Whether a text ends outside of quoted texts, and has these characters there. -/
def Shows (chars shown : List Char) : Prop := ∀ rest, bare .outside (chars ++ rest) = shown ++ bare .outside rest

variable {chars others shown second : List Char}

theorem Shows.unique (shows : Shows chars shown) (other : Shows chars second) : shown = second := by
  simpa [bare] using (shows []).symm.trans (other [])

theorem Shows.nil : Shows [] [] := fun _ => rfl

theorem Shows.append (first : Shows chars shown) (next : Shows others second) :
    Shows (chars ++ others) (shown ++ second) := by
  intro rest
  rw [List.append_assoc, first, next, List.append_assoc]

theorem Shows.plain (plain : '"' ∉ chars) : Shows chars chars := by
  intro rest
  induction chars with
  | nil => rfl
  | cons c chars ih =>
    rw [List.mem_cons, not_or] at plain
    rw [List.cons_append, bare, if_neg (Ne.symm plain.1), ih plain.2, List.cons_append]

theorem bare_hexDigits (each : ∀ c ∈ chars, Text.isHexDigit c = true) (rest : List Char) :
    bare .quoted (chars ++ rest) = bare .quoted rest := by
  induction chars with
  | nil => rfl
  | cons c chars ih =>
    obtain ⟨first, each⟩ := List.forall_mem_cons.mp each
    have quote : c ≠ '"' := by rintro rfl; revert first; decide
    have slash : c ≠ '\\' := by rintro rfl; revert first; decide
    rw [List.cons_append, bare, if_neg quote, if_neg slash, ih each]

theorem Letter.bare {letter : List Char} (one : Letter letter) (rest : List Char) :
    bare .quoted (letter ++ rest) = bare .quoted rest := by
  cases one with
  | plain _ other => simp [Json.bare, other]
  | named => simp [Json.bare]
  | unit _ each => simp [Json.bare, bare_hexDigits each]

theorem Letters.shows {content : List Char} (letters : Letters content) : Shows ('"' :: content ++ ['"']) [] := by
  have inside (rest : List Char) : Json.bare .quoted (content ++ rest) = Json.bare .quoted rest := by
    induction letters with
    | nil => rfl
    | cons first _ ih => rw [List.append_assoc, first.bare, ih]
  intro rest
  simp [Json.bare, inside]

/-! ### What documents are spelled with -/

/-- Whether a character is no quote, and none of the capital letters of words for numbers. -/
def isUsual (c : Char) : Bool := c ≠ '"' && c ≠ 'N' && c ≠ 'I'

/-- Whether a text is spelled with usual characters outside of quoted texts. -/
def Spelled (chars : List Char) : Prop := ∃ shown, Shows chars shown ∧ ∀ c ∈ shown, isUsual c = true

namespace Spelled

theorem append (first : Spelled chars) (next : Spelled others) : Spelled (chars ++ others) := by
  obtain ⟨shown, shows, usual⟩ := first
  obtain ⟨second, shows', usual'⟩ := next
  exact ⟨shown ++ second, shows.append shows', List.forall_mem_append.mpr ⟨usual, usual'⟩⟩

theorem usual (usual : chars.all isUsual = true) : Spelled chars := by
  have each := List.all_eq_true.mp usual
  refine ⟨chars, .plain fun quote => ?_, each⟩
  have none : isUsual '"' = false := by decide
  exact absurd (each '"' quote) (by simp [none])

theorem single {c : Char} (one : isUsual c = true) : Spelled [c] := usual (by simpa using one)

theorem cons {c : Char} (one : isUsual c = true) (rest : Spelled chars) : Spelled (c :: chars) :=
  append (single one) rest

theorem bracketed {opening closing : Char} (first : isUsual opening = true) (last : isUsual closing = true)
    (inner : Spelled chars) : Spelled (opening :: chars ++ [closing]) := append (cons first inner) (single last)

theorem intercalate {separator : Char} {texts : List (List Char)} (one : isUsual separator = true)
    (each : ∀ text ∈ texts, Spelled text) : Spelled ([separator].intercalate texts) := by
  induction texts with
  | nil => exact ⟨[], .nil, nofun⟩
  | cons first rest ih =>
    cases rest with
    | nil => simpa using each first (.head _)
    | cons second more =>
      rw [List.intercalate_cons_cons, List.append_assoc]
      exact append (each first (.head _)) (cons one (ih fun text member => each text (.tail _ member)))

end Spelled

theorem usual_of_isBlank {c : Char} (blank : isBlank c = true) : isUsual c = true := by
  simp only [isBlank, Bool.or_eq_true, decide_eq_true_eq] at blank
  rcases blank with ((rfl | rfl) | rfl) | rfl <;> decide

theorem all_of_blanks (each : ∀ c ∈ chars, isBlank c = true) : chars.all isUsual = true :=
  List.all_eq_true.mpr fun c member => usual_of_isBlank (each c member)

theorem usual_of_isDigit {c : Char} (digit : c.isDigit = true) : isUsual c = true := by
  have other {d : Char} (letter : d.isDigit = false) : c ≠ d := by
    rintro rfl
    rw [letter] at digit
    cases digit
  have quote : c ≠ '"' := other (by decide)
  have capitals : c ≠ 'N' ∧ c ≠ 'I' := ⟨other (by decide), other (by decide)⟩
  simp [isUsual, quote, capitals]

theorem Digits.spelled (digits : Digits chars) : Spelled chars :=
  .usual (List.all_eq_true.mpr fun c member => usual_of_isDigit (digits.each c member))

theorem Unsigned.spelled (unsigned : Unsigned chars) : Spelled chars := by
  obtain ⟨whole, fraction, exponent⟩ := unsigned
  refine (whole.spelled.append ?_).append ?_
  · cases fraction with
    | none => exact .usual rfl
    | point digits => exact .cons (by decide) digits.spelled
  · cases exponent with
    | none => exact .usual rfl
    | power marked signed digits =>
      rw [List.cons_append]
      refine .cons ?_ (.append ?_ digits.spelled)
      · rcases marked with rfl | rfl <;> decide
      · rcases signed with rfl | rfl | rfl <;> exact .usual (by decide)

theorem Number.spelled (number : Number chars) : Spelled chars := by
  cases number with
  | positive unsigned => exact unsigned.spelled
  | negative unsigned => exact .cons (by decide) unsigned.spelled

theorem Quoted.spelled (quoted : Quoted chars) : Spelled chars := by
  induction quoted with
  | quotes letters => exact ⟨[], letters.shows, nofun⟩
  | before blank _ ih => exact .cons (usual_of_isBlank blank) ih
  | behind blank _ ih => exact ih.append (.single (usual_of_isBlank blank))

theorem Document.spelled (document : Document chars) : Spelled chars := by
  have list : isUsual '[' = true ∧ isUsual ']' = true := by decide
  have record : isUsual '\x7b' = true ∧ isUsual '\x7d' = true := by decide
  have comma : isUsual ',' = true := by decide
  induction document with
  | word known =>
    have words : (["null", "true", "false"].map String.toList).all (·.all isUsual) = true := by decide
    exact .usual (List.all_eq_true.mp words _ known)
  | number number => exact number.spelled
  | text quoted => exact quoted.spelled
  | list each => exact .bracketed list.1 list.2 (.usual (all_of_blanks each))
  | record each => exact .bracketed record.1 record.2 (.usual (all_of_blanks each))
  | items _ _ ih => exact .bracketed list.1 list.2 (.intercalate comma ih)
  | fields _ names _ ih =>
    refine .bracketed record.1 record.2 (.intercalate comma fun text member => ?_)
    obtain ⟨field, among, rfl⟩ := List.mem_map.mp member
    exact .append (names field among).spelled (.cons (by decide) (ih field among))
  | before blank _ ih => exact .cons (usual_of_isBlank blank) ih
  | behind blank _ ih => exact ih.append (.single (usual_of_isBlank blank))

end DataGrid.Json
