import DataGrid.Proofs.TwinColumns

/-! The skeleton of what is written: all of it but the holes in which names, paths into JSON columns and values stand.
Two texts have one skeleton when they are the same outside of the holes, and what fills a hole in both is a pair of
names, or of paths, that are known to belong together. -/

namespace DataGrid

open Sql

namespace Text

theorem segments_append (separator : Char) (first second : List Char) :
    segments separator (first ++ separator :: second) = segments separator first ++ segments separator second := by
  induction first with
  | nil => simp [segments]
  | cons c rest ih =>
    rw [List.cons_append, segments, segments, ih]
    by_cases same : c = separator
    · rw [if_pos same, if_pos same]
      rfl
    · rw [if_neg same, if_neg same]
      cases found : segments separator rest with
      | nil => exact absurd found (segments_ne_nil separator rest)
      | cons head others => rfl

theorem intercalate_append (separator : List Char) {first second : List (List Char)} (some : first ≠ [])
    (more : second ≠ []) :
    separator.intercalate (first ++ second) =
      separator.intercalate first ++ separator ++ separator.intercalate second := by
  induction first with
  | nil => exact absurd rfl some
  | cons head rest ih =>
    cases rest with
    | nil =>
      obtain ⟨next, others, rfl⟩ := List.exists_cons_of_ne_nil more
      simp [List.intercalate, List.intersperse]
    | cons next others =>
      have rest := ih (List.cons_ne_nil _ _)
      simp only [List.intercalate, List.cons_append, List.intersperse_cons_cons, List.flatten_cons] at rest ⊢
      rw [rest]
      simp

end Text

namespace Sql

theorem Dialect.percent_append (dialect : Dialect) (first second : List Char) :
    dialect.percent (first ++ second) = dialect.percent first ++ dialect.percent second := by
  unfold percent
  split
  · exact List.flatMap_append
  · rfl

theorem Dialect.plain_append (dialect : Dialect) (first second : String) :
    dialect.plain (first ++ second) = dialect.plain first ++ dialect.plain second := by
  rw [plain, plain, plain, String.toList_append, percent_append, String.ofList_append]

/-- A name behind a table is quoted on its own. -/
theorem Adapter.quoteIdentifier_within (adapter : Adapter) (table name : String) :
    adapter.quoteIdentifier (table ++ "." ++ name) =
      adapter.quoteIdentifier table ++ "." ++ adapter.quoteIdentifier name := by
  have chars : (table ++ "." ++ name).toList = table.toList ++ '.' :: name.toList := by
    rw [String.toList_append, String.toList_append]
    simp
  have some (name : List Char) : (Text.segments '.' name).map adapter.dialect.segment ≠ [] := by
    rw [Ne, List.map_eq_nil_iff]
    exact Text.segments_ne_nil '.' name
  unfold quoteIdentifier Dialect.identifier Dialect.identifierChars
  rw [chars, Text.segments_append, List.map_append, Text.intercalate_append _ (some _) (some _)]
  rw [String.ofList_append, String.ofList_append]

/-- So is the column of a JSON path. -/
theorem Adapter.jsonPath_within (adapter : Adapter) (table column path : String) :
    adapter.jsonPath (table ++ "." ++ column) path =
      (adapter.jsonPath column path).map fun written => adapter.quoteIdentifier table ++ "." ++ written := by
  unfold jsonPath
  cases adapter.family with
  | mysql | postgresql =>
    rw [quoteIdentifier_within]
    simp [Except.map, String.append_assoc]
  | generic | oracle => rfl

/-- What is written, sign by sign. A piece that is no final text is one glyph. -/
inductive Glyph where
  | char (c : Char)
  | piece (content : Piece)

def glyphsOf (text : String) : List Glyph := text.toList.map .char

def Piece.glyphs : Piece → List Glyph
  | .text content => glyphsOf content
  | piece => [.piece piece]

def glyphs (pieces : List Piece) : List Glyph := pieces.flatMap Piece.glyphs

theorem glyphsOf_append (first second : String) : glyphsOf (first ++ second) = glyphsOf first ++ glyphsOf second := by
  rw [glyphsOf, String.toList_append, List.map_append]
  rfl

theorem glyphs_append (first second : List Piece) : glyphs (first ++ second) = glyphs first ++ glyphs second :=
  List.flatMap_append

@[simp] theorem glyphs_text (content : String) : glyphs [.text content] = glyphsOf content := List.flatMap_singleton ..

/-- A value in its place: bound, or written as a truth value. -/
inductive ShownValue where
  | bound (base : String) (value : Value)
  | truth (flag : Bool)

/-- What fills a hole: a name, the path into a JSON column, or a value. -/
inductive Filling where
  | name (name : String)
  | path (column path : String)
  | value (shown : ShownValue)

def ShownValue.glyphs (dialect : Dialect) : ShownValue → List Glyph
  | bound base value => [.piece (.bound base value)]
  | truth flag => glyphsOf (dialect.truthLiteral flag)

/-- How a filling is written: a name quoted, a path as the adapter has it. -/
def Filling.glyphs (adapter : Adapter) : Filling → List Glyph
  | .name given => glyphsOf (adapter.dialect.plain (adapter.quoteIdentifier given))
  | .path column steps =>
    match adapter.jsonPath column steps with
    | .ok written => glyphsOf (adapter.dialect.plain written)
    | .error _ => []
  | .value shown => shown.glyphs adapter.dialect

/-- A part of what is written: a glyph of the skeleton, or a hole with its filling. -/
inductive Part where
  | fixed (glyph : Glyph)
  | hole (filling : Filling)

def Part.glyphs (adapter : Adapter) : Part → List Glyph
  | fixed glyph => [glyph]
  | hole filling => filling.glyphs adapter

variable {names paths : String → String → Prop}

inductive Filling.Matches (names paths : String → String → Prop) : Filling → Filling → Prop where
  | name {first second} (named : names first second) : Matches names paths (.name first) (.name second)
  | path {first second path other} (named : names first second) (stepped : paths path other) :
      Matches names paths (.path first path) (.path second other)
  | value (first second : ShownValue) : Matches names paths (.value first) (.value second)

/-- Parts at one place of two texts: the same glyph, or a hole with fillings that belong together. -/
inductive Part.Matches (names paths : String → String → Prop) : Part → Part → Prop where
  | fixed (glyph : Glyph) : Matches names paths (.fixed glyph) (.fixed glyph)
  | hole {first second} (fillings : Filling.Matches names paths first second) :
      Matches names paths (.hole first) (.hole second)

/-- Two texts come from one skeleton. -/
def OneSkeleton (adapter : Adapter) (names paths : String → String → Prop) (first second : List Glyph) : Prop :=
  ∃ parts others, List.Forall₂ (Part.Matches names paths) parts others ∧
    first = parts.flatMap (Part.glyphs adapter) ∧ second = others.flatMap (Part.glyphs adapter)

namespace OneSkeleton

variable {adapter : Adapter} {first second third fourth : List Glyph}

theorem refl (glyphs : List Glyph) : OneSkeleton adapter names paths glyphs glyphs := by
  have written : glyphs = (glyphs.map Part.fixed).flatMap (Part.glyphs adapter) := by
    rw [List.flatMap_map]
    exact (List.flatMap_singleton' glyphs).symm
  refine ⟨glyphs.map .fixed, glyphs.map .fixed, List.forall₂_same.mpr ?_, written, written⟩
  intro part member
  obtain ⟨glyph, _, rfl⟩ := List.mem_map.mp member
  exact .fixed glyph

theorem append (one : OneSkeleton adapter names paths first second)
    (other : OneSkeleton adapter names paths third fourth) :
    OneSkeleton adapter names paths (first ++ third) (second ++ fourth) := by
  obtain ⟨parts, others, pairs, rfl, rfl⟩ := one
  obtain ⟨parts', others', pairs', rfl, rfl⟩ := other
  exact ⟨parts ++ parts', others ++ others', List.rel_append pairs pairs', List.flatMap_append.symm,
    List.flatMap_append.symm⟩

theorem hole {filling other : Filling} (fillings : Filling.Matches names paths filling other) :
    OneSkeleton adapter names paths (filling.glyphs adapter) (other.glyphs adapter) := by
  refine ⟨[.hole filling], [.hole other], .cons (.hole fillings) .nil, ?_, ?_⟩
  · exact (List.flatMap_singleton ..).symm
  · exact (List.flatMap_singleton ..).symm

theorem value (shown other : ShownValue) :
    OneSkeleton adapter names paths (shown.glyphs adapter.dialect) (other.glyphs adapter.dialect) :=
  hole (.value shown other)

end OneSkeleton

/-- What two runs write comes from one skeleton. -/
def skeletal (adapter : Adapter) (names paths : String → String → Prop) : Likeness where
  relates first second := OneSkeleton adapter names paths (glyphs first) (glyphs second)
  refl pieces := .refl _
  append one other := by
    rw [glyphs_append, glyphs_append]
    exact one.append other
  texts one other := by
    simp only [glyphs_text, glyphsOf_append] at one other ⊢
    exact one.append other
  bound base value other := .value (.bound base value) (.bound base other)

variable {adapter : Adapter}

theorem skeletal_text {first second : String} :
    (skeletal adapter names paths).relates [.text first] [.text second] ↔
      OneSkeleton adapter names paths (glyphsOf first) (glyphsOf second) := by
  simp [skeletal]

/-- Names that belong together are written alike. -/
theorem Expr.Twin.of_names {first second : String} (named : names first second) :
    Expr.Twin (skeletal adapter names paths) adapter.dialect (adapter.column first) (adapter.column second) where
  written := by
    rw [skeletal_text]
    exact .hole (.name named)
  bound value other := OneSkeleton.value (.bound _ value) (.bound _ other)

/-- What is written behind a table is written alike there, too. -/
theorem Expr.Twin.within {first second : String} (table : String)
    (twins : Expr.Twin (skeletal adapter names paths) adapter.dialect (.literal first) (.literal second)) :
    Expr.Twin (skeletal adapter names paths) adapter.dialect (.literal (adapter.quoteIdentifier table ++ "." ++ first))
      (.literal (adapter.quoteIdentifier table ++ "." ++ second)) where
  written := by
    simp only [Dialect.expr, Dialect.plain_append]
    exact Likeness.preceded _ twins.written
  bound value other := OneSkeleton.value (.bound _ value) (.bound _ other)

/-- Only a text is a path. -/
theorem Adapter.jsonPathOf_ok {column written : String} {path : Value}
    (read : adapter.jsonPathOf column path = .ok written) :
    ∃ steps, path = .text steps ∧ adapter.jsonPath column steps = .ok written := by
  unfold jsonPathOf jsonPath at read
  cases path with
  | text steps => exact ⟨steps, rfl, read⟩
  | _ =>
    cases found : adapter.family <;> rw [found] at read <;> cases read

/-- A path into a column behind a table is written as that into the column, with the table before it. -/
theorem Adapter.jsonPathOf_within {table column written : String} {path : Value}
    (read : adapter.jsonPathOf (table ++ "." ++ column) path = .ok written) :
    ∃ inner, adapter.jsonPathOf column path = .ok inner ∧ written = adapter.quoteIdentifier table ++ "." ++ inner := by
  obtain ⟨steps, rfl, reached⟩ := Adapter.jsonPathOf_ok read
  rw [Adapter.jsonPath_within] at reached
  obtain ⟨inner, found, rfl⟩ := Except.map_ok reached
  exact ⟨inner, found, rfl⟩

end Sql

namespace Column.WrittenAs

variable {names paths : String → String → Prop} {adapter : Adapter} {path path' : Value} {first second : String}

/-- Names that belong together are written alike, and so are paths that do. -/
theorem of_names (named : names first second)
    (stepped : ∀ steps steps', path = .text steps → path' = .text steps' → paths steps steps') :
    Column.WrittenAs (skeletal adapter names paths) adapter path path' first second where
  names := .of_names named
  paths read read' := by
    obtain ⟨steps, one, read⟩ := Adapter.jsonPathOf_ok read
    obtain ⟨steps', two, read'⟩ := Adapter.jsonPathOf_ok read'
    refine ⟨?_, fun value other => OneSkeleton.value (.bound _ value) (.bound _ other)⟩
    have filled : OneSkeleton adapter names paths _ _ := .hole (.path named (stepped _ _ one two))
    simp only [Filling.glyphs, read, read'] at filled
    exact skeletal_text.mpr filled

/-- What is written alike is so behind a table, too. -/
theorem within (written : Column.WrittenAs (skeletal adapter names paths) adapter path path' first second)
    (table : String) :
    Column.WrittenAs (skeletal adapter names paths) adapter path path' (table ++ "." ++ first)
      (table ++ "." ++ second) where
  names := by
    unfold Adapter.column
    rw [Adapter.quoteIdentifier_within, Adapter.quoteIdentifier_within]
    exact written.names.within table
  paths read read' := by
    obtain ⟨inner, found, rfl⟩ := Adapter.jsonPathOf_within read
    obtain ⟨inner', found', rfl⟩ := Adapter.jsonPathOf_within read'
    exact (written.paths found found').within table

end Column.WrittenAs

end DataGrid
