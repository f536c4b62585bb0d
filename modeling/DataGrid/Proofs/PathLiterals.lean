import DataGrid.Proofs.QuotedNames
import DataGrid.RowOrder

/-! Paths into JSON columns, as they are written. Behind the column and its sign stands one text literal, and nothing in
a path can end it: the database reads the whole path as its content, in a search as in an order. On PostgreSQL a comma
parts steps as a point does, so paths that differ by that are written alike; no others are. -/

namespace DataGrid

open Sql

namespace Text

/-- The text of all segments tells the segments. -/
theorem segments_injective (separator : Char) : Function.Injective (segments separator) := by
  intro first second same
  rw [← intercalate_segments separator first, same, intercalate_segments]

theorem segments_subset (separator : Char) (chars : List Char) : ∀ segment ∈ segments separator chars, segment ⊆ chars := by
  induction chars with
  | nil => simp [segments]
  | cons c rest ih =>
    obtain ⟨first, others, found⟩ := List.exists_cons_of_ne_nil (segments_ne_nil separator rest)
    rw [found] at ih
    obtain ⟨head, tail⟩ := List.forall_mem_cons.mp ih
    rw [segments, found]
    split
    · simp only [List.forall_mem_cons]
      exact ⟨List.nil_subset _, List.subset_cons_of_subset c head, fun segment member =>
        List.subset_cons_of_subset c (tail segment member)⟩
    · simp only [List.forall_mem_cons]
      exact ⟨List.cons_subset_cons c head, fun segment member => List.subset_cons_of_subset c (tail segment member)⟩

/-- A separator in the place of another one cuts at both. -/
theorem segments_map (separator other : Char) (chars : List Char) :
    segments other (chars.map fun c => if c = separator then other else c) =
      (segments separator chars).flatMap (segments other) := by
  induction chars with
  | nil => rfl
  | cons c rest ih =>
    by_cases cut : c = separator
    · rw [List.map_cons, if_pos cut, segments, if_pos rfl, segments, if_pos cut, ih, List.flatMap_cons]
      rfl
    · obtain ⟨first, others, found⟩ := List.exists_cons_of_ne_nil (segments_ne_nil separator rest)
      rw [found, List.flatMap_cons] at ih
      rw [List.map_cons, if_neg cut, segments, segments, if_neg cut, ih, found]
      dsimp only
      rw [List.flatMap_cons, segments]
      split
      · rfl
      · obtain ⟨head, tail, split⟩ := List.exists_cons_of_ne_nil (segments_ne_nil other first)
        rw [split]
        rfl

end Text

namespace Sql

/-- How databases spell a path into a JSON column: the sign before it, and the content of the literal that says it. -/
structure PathForm where
  sign : String
  location : List Char → List Char

/-- MySQL takes a path from the whole document, which `$` stands for; PostgreSQL takes a list of steps in braces. -/
def Family.pathForm? : Family → Option PathForm
  | .mysql => some ⟨"->", fun path => '$' :: '.' :: path⟩
  | .postgresql => some ⟨"#>>", fun path => '\x7b' :: (path.map fun c => if c = '.' then ',' else c) ++ ['\x7d']⟩
  | .generic | .oracle => none

/-- The steps into a document that a path is written for: PostgreSQL parts them at commas too. -/
def Family.steps : Family → List Char → List (List Char)
  | .postgresql, path => (Text.segments '.' path).flatMap (Text.segments ',')
  | _, path => Text.segments '.' path

namespace Adapter

/-- The content of the text literal at the front of some SQL, and what follows it. MySQL knows escapes. -/
def readLiteral (adapter : Adapter) : List Char → Option (List Char × List Char)
  | '\'' :: rest => Text.readQuoted '\'' (adapter.family = .mysql) rest
  | _ => none

/-- Reads a column, the sign of a path and its literal: the segments of the column, the content of the literal, and what
follows it. -/
def readPath (adapter : Adapter) (sign : String) (chars : List Char) :
    Option (List (List Char) × List Char × List Char) := do
  let (column, rest) ← adapter.dialect.readName chars
  let rest ← sign.toList.isPrefixOf? rest
  let (location, rest) ← adapter.readLiteral rest
  return (column, location, rest)

variable {adapter : Adapter}

theorem quoteLiteral_eq (adapter : Adapter) (chars : List Char) :
    adapter.quoteLiteral chars =
      '\'' :: Text.doubled '\'' (Text.escaped (adapter.family = .mysql) chars) ++ ['\''] := by
  have slashes : (fun c : Char => if c = '\\' then ['\\', '\\'] else [c]) = fun c => if c = '\\' then [c, c] else [c] := by
    funext c
    split <;> simp_all
  have quotes : (fun c : Char => if c = '\'' then ['\'', '\''] else [c]) = fun c => if c = '\'' then [c, c] else [c] := by
    funext c
    split <;> simp_all
  unfold quoteLiteral Text.escaped Text.doubled
  rw [quotes, slashes]
  cases adapter.family <;> rfl

/-- A literal ends at its last sign, whatever it says. -/
theorem readLiteral_quoteLiteral (adapter : Adapter) (chars : List Char) {rest : List Char}
    (after : rest.head? ≠ some '\'') : adapter.readLiteral (adapter.quoteLiteral chars ++ rest) = some (chars, rest) := by
  rw [quoteLiteral_eq]
  have read := Text.readQuoted_doubled '\'' (adapter.family = .mysql) (fun _ => by decide) chars after
  simpa [readLiteral] using read

theorem jsonPath_eq {form : PathForm} (supported : adapter.family.pathForm? = some form) (column path : String) :
    adapter.jsonPath column path =
      .ok (adapter.quoteIdentifier column ++ form.sign ++
        String.ofList (adapter.quoteLiteral (form.location path.toList))) := by
  unfold Family.pathForm? at supported
  unfold jsonPath
  split at supported <;> cases supported
  · next family => rw [family]
  · next family => rw [family]

/-- The sign of a path does not go on with the name before it. -/
theorem sign_endsName {dialect : Dialect} (delimits : dialect.Delimits) {family : Family} {form : PathForm}
    (supported : family.pathForm? = some form) (rest : List Char) : dialect.EndsName (form.sign.toList ++ rest) := by
  have signed {c : Char} (sign : c ∈ pathSigns) (plain : isLegalChar c = false) (other : c ≠ '\n' ∧ c ≠ '.')
      (more : List Char) : dialect.EndsName (c :: more) := by
    refine ⟨?_, fun same => other.2 (Option.some.inj same)⟩
    rintro _ ⟨⟩
    exact ⟨other.1, fun same => delimits.sign (same ▸ sign), plain⟩
  unfold Family.pathForm? at supported
  split at supported <;> cases supported
  · exact signed (c := '-') (by decide) (by decide) (by decide) _
  · exact signed (c := '#') (by decide) (by decide) (by decide) _

theorem readPath_written (known : adapter.dialect ∈ Dialect.all) {form : PathForm}
    (supported : adapter.family.pathForm? = some form) (column : String) (location rest : List Char)
    (after : rest.head? ≠ some '\'') :
    adapter.readPath form.sign ((adapter.quoteIdentifier column ++ form.sign ++
        String.ofList (adapter.quoteLiteral location)).toList ++ rest) =
      some (Text.segments '.' column.toList, location, rest) := by
  have delimits := Dialect.all_delimit adapter.dialect known
  have name := Dialect.readName_identifierChars delimits column.toList
    (sign_endsName delimits supported (adapter.quoteLiteral location ++ rest))
  have sign : form.sign.toList.isPrefixOf? (form.sign.toList ++ (adapter.quoteLiteral location ++ rest)) =
      some (adapter.quoteLiteral location ++ rest) := List.isPrefixOf?_eq_some_iff_append_eq.mpr rfl
  rw [String.toList_append, String.toList_append, String.toList_ofList, quoteIdentifier, Dialect.identifier,
    String.toList_ofList, List.append_assoc, List.append_assoc, readPath, name]
  simp only [Option.bind_eq_bind, Option.bind_some, sign, readLiteral_quoteLiteral adapter location after]
  rfl

end Adapter

end Sql

/-- What stands behind a path in a sort term: its direction, and a fallback that is sorted the same way. -/
def RowOrder.behindPath (adapter : Adapter) (fallback : Value) (descending : Bool) : Except Error String :=
  match fallback with
  | .null => .ok (" " ++ directionWord descending)
  | fallback => fallback.toColumnName.map fun name =>
    " " ++ directionWord descending ++ ", " ++ adapter.quoteIdentifier name ++ " " ++ directionWord descending

theorem RowOrder.termSql_path (config : Config) {adapter : Adapter} {column path sql : String} {term : OrderTerm}
    (asked : term.jsonPath = .text path) (written : adapter.jsonPath column path = .ok sql) :
    RowOrder.termSql config adapter column term =
      (RowOrder.behindPath adapter term.fallback term.descending).map (sql ++ ·) := by
  obtain ⟨_, _, fallback, descending⟩ := term
  cases asked
  have named (given : Except Error String) :
      (do return sql ++ " " ++ directionWord descending ++ ", " ++ adapter.quoteIdentifier (← given) ++ " " ++
          directionWord descending : Except Error String) =
        (given.map fun name => " " ++ directionWord descending ++ ", " ++ adapter.quoteIdentifier name ++ " " ++
          directionWord descending).map (sql ++ ·) := by
    cases given with
    | error failure => rfl
    | ok name => exact congrArg Except.ok (by simp only [String.append_assoc])
  have read : adapter.jsonPathOf column (.text path) = .ok sql := written
  rw [RowOrder.termSql, RowOrder.jsonSql, read, Except.ok_bind]
  cases fallback with
  | null => exact congrArg Except.ok (String.append_assoc ..)
  | _ => exact named _

namespace Sql.Adapter

variable {adapter : Adapter}

/-- A path is written as its column, its sign and one literal. The literal ends at the last sign of the whole, whatever
the path holds, and says the path; what is searched is this text, and what is sorted by has nothing of the path behind
it. -/
theorem jsonPath_reads (known : adapter.dialect ∈ Dialect.all) {form : PathForm}
    (supported : adapter.family.pathForm? = some form) (column path : String) :
    ∃ sql literal, adapter.jsonPath column path = .ok sql ∧
      sql = adapter.quoteIdentifier column ++ form.sign ++ String.ofList literal ∧
      (∀ rest, rest.head? ≠ some '\'' →
        adapter.readLiteral (literal ++ rest) = some (form.location path.toList, rest) ∧
        adapter.readPath form.sign (sql.toList ++ rest) =
          some (Text.segments '.' column.toList, form.location path.toList, rest)) ∧
      adapter.jsonField column (.text path) = .ok (.literal sql) ∧
      ∀ config term, term.jsonPath = .text path → RowOrder.termSql config adapter column term =
        (RowOrder.behindPath adapter term.fallback term.descending).map (sql ++ ·) := by
  have written := jsonPath_eq supported column path
  refine ⟨_, _, written, rfl, fun rest after => ⟨?_, ?_⟩, ?_, fun config term asked => ?_⟩
  · exact readLiteral_quoteLiteral adapter _ after
  · exact readPath_written known supported column _ rest after
  · have path : adapter.jsonPathOf column (.text path) = _ := written
    rw [jsonField, path, Except.ok_bind]
    rfl
  · exact RowOrder.termSql_path config asked written

/-- A path that would close the literal of a MySQL column, if its backslash and its quote were not doubled. -/
theorem jsonPath_reads_slash :
    let adapter := Adapter.ofDialect .mysql false
    adapter.dialect ∈ Dialect.all ∧ adapter.family.pathForm?.map PathForm.sign = some "->" ∧
      adapter.jsonPath "orders.details" "a\\'b" = .ok "orders.details->'$.a\\\\''b'" ∧
      adapter.readPath "->" "orders.details->'$.a\\\\''b' desc".toList =
        some (["orders".toList, "details".toList], "$.a\\'b".toList, " desc".toList) := by
  intro adapter
  have known : adapter.dialect ∈ Dialect.all := by simp [adapter, ofDialect, Dialect.all]
  have written : adapter.jsonPath "orders.details" "a\\'b" = .ok "orders.details->'$.a\\\\''b'" := by decide +kernel
  have supported : adapter.family.pathForm? = some ⟨"->", fun path => '$' :: '.' :: path⟩ := rfl
  obtain ⟨sql, literal, made, _, reads, _⟩ := jsonPath_reads known supported "orders.details" "a\\'b"
  obtain rfl := Except.ok.inj (made.symm.trans written)
  exact ⟨known, rfl, written, (reads " desc".toList (by decide)).2⟩

/-- The steps that a path is written for tell its location, and its location tells them. -/
theorem location_eq_iff {family : Family} {form : PathForm} (supported : family.pathForm? = some form)
    (first second : List Char) :
    form.location first = form.location second ↔ family.steps first = family.steps second := by
  unfold Family.pathForm? at supported
  split at supported <;> cases supported
  · simp [Family.steps, (Text.segments_injective '.').eq_iff]
  · simp only [Family.steps, ← Text.segments_map, (Text.segments_injective ',').eq_iff]
    simp

theorem steps_plain {family : Family} {path : List Char} (plain : family = .mysql ∨ ',' ∉ path) :
    family.steps path = Text.segments '.' path := by
  rcases plain with rfl | plain
  · rfl
  · cases family with
    | postgresql =>
      have single : ∀ segment ∈ Text.segments '.' path, Text.segments ',' segment = [segment] := fun segment member =>
        Text.segments_single fun comma => plain (Text.segments_subset '.' path segment member comma)
      rw [Family.steps, List.flatMap_congr single, List.flatMap_singleton']
    | generic | mysql | oracle => rfl

/-- Paths are written alike exactly when they lead from one column along the same steps. So paths of different segments
are told apart, unless a comma of PostgreSQL makes them the same steps. -/
theorem jsonPath_eq_iff (known : adapter.dialect ∈ Dialect.all) {form : PathForm}
    (supported : adapter.family.pathForm? = some form) (column other path another : String) :
    (adapter.jsonPath column path = adapter.jsonPath other another ↔
      column = other ∧ adapter.family.steps path.toList = adapter.family.steps another.toList) ∧
    (adapter.family = .mysql ∨ ',' ∉ path.toList ∧ ',' ∉ another.toList →
      Text.segments '.' path.toList ≠ Text.segments '.' another.toList →
        adapter.jsonPath column path ≠ adapter.jsonPath other another) := by
  have alike : adapter.jsonPath column path = adapter.jsonPath other another ↔
      column = other ∧ adapter.family.steps path.toList = adapter.family.steps another.toList := by
    rw [← location_eq_iff supported, jsonPath_eq supported, jsonPath_eq supported]
    constructor
    · intro same
      have one := readPath_written known supported column (form.location path.toList) [] nofun
      have two := readPath_written known supported other (form.location another.toList) [] nofun
      rw [Except.ok.inj same, two] at one
      obtain ⟨columns, locations⟩ : Text.segments '.' other.toList = Text.segments '.' column.toList ∧
          form.location another.toList = form.location path.toList := by simpa using one
      exact ⟨(String.toList_injective (Text.segments_injective '.' columns)).symm, locations.symm⟩
    · rintro ⟨rfl, same⟩
      rw [same]
  refine ⟨alike, fun plain different same => different ?_⟩
  have steps := (alike.mp same).2
  rw [steps_plain (plain.imp_right And.left), steps_plain (plain.imp_right And.right)] at steps
  exact steps

/-- One step with a comma in it, or two steps: PostgreSQL is asked for the same place. -/
theorem jsonPath_eq_iff_comma :
    let adapter := Adapter.ofDialect .postgresql false
    adapter.dialect ∈ Dialect.all ∧ Text.segments '.' "a,b".toList ≠ Text.segments '.' "a.b".toList ∧
      adapter.jsonPath "details" "a,b" = adapter.jsonPath "details" "a.b" ∧
      adapter.jsonPath "details" "a.b" ≠ adapter.jsonPath "details" "a.c" := by
  intro adapter
  have known : adapter.dialect ∈ Dialect.all := by simp [adapter, ofDialect, Dialect.all]
  obtain ⟨form, supported⟩ : ∃ form, adapter.family.pathForm? = some form := ⟨_, rfl⟩
  refine ⟨known, by decide, ?_, ?_⟩
  · exact (jsonPath_eq_iff known supported "details" "details" "a,b" "a.b").1.mpr ⟨rfl, by decide⟩
  · exact (jsonPath_eq_iff known supported "details" "details" "a.b" "a.c").2 (.inr (by decide)) (by decide)

end Sql.Adapter

end DataGrid
