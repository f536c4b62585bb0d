import DataGrid.Proofs.TwinQueries

/-! Statements with their values blanked out. The text with placeholders is written without a look at the values, so
queries that are the same but for the values they bind come to the same text, and are counted by the same text. -/

namespace DataGrid

open Sql

namespace Sql

def FragmentPart.blank : FragmentPart → FragmentPart
  | .place name _ => .place name .null
  | part => part

/-- A piece without the values that it binds. -/
def Piece.blank : Piece → Piece
  | .bound base _ => .bound base .null
  | .members base _ negated => .members base [] negated
  | .fragment content => .fragment (content.map FragmentPart.blank)
  | .hidden content _ => .hidden content .null
  | piece => piece

/-- What two runs write is the same, but for the values that are bound. -/
def blanked : Likeness where
  relates first second := first.map Piece.blank = second.map Piece.blank
  refl _ := rfl
  append one other := by rw [List.map_append, List.map_append, one, other]
  texts one other := by
    cases one
    cases other
    rfl
  bound _ _ _ := rfl

theorem Namer.fragment_blank (dialect : Dialect) (named : List (String × String)) (content : Fragment) :
    Namer.fragment dialect named (content.map FragmentPart.blank) = Namer.fragment dialect named content := by
  induction content generalizing named with
  | nil => rfl
  | cons part rest ih =>
    cases part with
    | chars _ => exact ih named
    | place name value | free name => simp only [List.map_cons, FragmentPart.blank, Namer.fragment, ih]

theorem fragmentText_blank (dialect : Dialect) (write : String → String) (content : Fragment) :
    fragmentText dialect (fun name _ => .ok (write name)) (content.map FragmentPart.blank) =
      fragmentText dialect (fun name _ => .ok (write name)) content := by
  have chars : fragmentChars dialect (fun name _ => .ok (write name)) (content.map FragmentPart.blank) =
      fragmentChars dialect (fun name _ => .ok (write name)) content := by
    induction content with
    | nil => rfl
    | cons part rest ih =>
      cases part <;> simp only [List.map_cons, FragmentPart.blank, fragmentChars, ih]
  rw [fragmentText, fragmentText, chars]

theorem Piece.placeholders_blank (dialect : Dialect) (piece : Piece) :
    piece.blank.placeholders dialect = piece.placeholders dialect := by
  cases piece with
  | fragment content =>
    rw [Piece.blank, Piece.placeholders, Piece.placeholders, Namer.fragment_blank]
    simp only [fragmentText_blank]
  | _ => rfl

theorem placeholderText_blank (dialect : Dialect) (pieces : List Piece) :
    placeholderText dialect (pieces.map Piece.blank) = placeholderText dialect pieces := by
  have each : (pieces.map Piece.blank).mapM (Piece.placeholders dialect) = pieces.mapM (Piece.placeholders dialect) := by
    induction pieces with
    | nil => rfl
    | cons piece rest ih => rw [List.map_cons, List.mapM_cons, List.mapM_cons, ih, Piece.placeholders_blank]
  rw [placeholderText, placeholderText, writtenText, writtenText, each]

theorem placeholderText_eq {dialect : Dialect} {first second : List Piece} (alike : blanked.relates first second) :
    placeholderText dialect first = placeholderText dialect second := by
  have same : first.map Piece.blank = second.map Piece.blank := alike
  rw [← placeholderText_blank, same, placeholderText_blank]

/-- Statements with one text, which differ at most in the values that they bind. -/
structure Select.SameText (dialect : Dialect) (first second : Select) : Prop where
  placeholders : first.placeholderSql dialect = second.placeholderSql dialect
  pieces : (first.pieces dialect false).map Piece.blank = (second.pieces dialect false).map Piece.blank

theorem Select.SameText.of_pieces {dialect : Dialect} {first second : Select}
    (alike : blanked.relates (first.pieces dialect false) (second.pieces dialect false)) :
    SameText dialect first second := ⟨placeholderText_eq alike, alike⟩

end Sql

namespace Query

variable {start first second : Query}

theorem Twin.sameText (twins : Query.Twin blanked start first second) :
    Except.Rel (Select.SameText start.dialect) first.select second.select :=
  twins.select.imp fun _ _ selects => .of_pieces (selects.pieces false)

/-- Whether the select list is kept when rows are counted goes by the text, so it goes by no value. -/
theorem Twin.sameCount (twins : Query.Twin blanked start first second) :
    Except.Rel (Select.SameText start.dialect) first.countSelect second.countSelect := by
  rw [countSelect, countSelect, twins.dialects.1, twins.dialects.2, twins.base.1, twins.base.2, twins.joins]
  refine twins.select.bind ?_
  intro one other selects
  have blocks : blocksCount start.dialect one = blocksCount start.dialect other := by
    rw [blocksCount, blocksCount, placeholderText_eq (selects.pieces false)]
  rw [blocks]
  refine (Except.Rel.refl (fun _ => rfl) (blocksCount start.dialect other)).bind ?_
  rintro blocked _ rfl
  by_cases kept : blocked = true
  · rw [if_pos kept, if_pos kept]
    exact .ok (.of_pieces (Select.counting_pieces (selects.pieces true) false))
  · rw [if_neg kept, if_neg kept]
    have marked : Select.Twin blanked start.dialect { one with items := [.rowMark] } { other with items := [.rowMark] } :=
      { selects with items := .cons (.same _) .nil }
    by_cases ambiguous : (!start.base.joins.isEmpty && !second.joins.isEmpty) = true
    · rw [if_pos ambiguous, if_pos ambiguous]
      exact .error _
    · rw [if_neg ambiguous, if_neg ambiguous]
      exact .ok (.of_pieces (Select.counting_pieces (marked.pieces true) false))

end Query

end DataGrid
