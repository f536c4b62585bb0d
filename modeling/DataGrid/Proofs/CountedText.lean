import DataGrid.Proofs.BlankedValues

/-! Words in the text of a statement. A piece of final text stands in the written statement as it is, and lower case
leaves an upper-case word where it was, so each clause of a statement says its word in the text that is looked at when
rows are counted. -/

namespace DataGrid

open Sql

theorem Query.occursIn_of_infix {word text : List Char} (inside : word <:+: text) : occursIn word text = true := by
  obtain ⟨before, after, rfl⟩ := inside
  induction before with
  | nil =>
    cases word with
    | nil => cases after <;> rfl
    | cons c rest => simp [occursIn]
  | cons c rest ih =>
    rw [List.cons_append, List.cons_append, occursIn, ih, Bool.or_true]

namespace Text

/-- Whether the lower case of a text goes character by character. -/
def Simple (chars : List Char) : Prop := ∀ c ∈ chars, c ≠ 'Σ' ∧ c ≠ 'İ'

instance (chars : List Char) : Decidable (Simple chars) := List.decidableBAll _ chars

theorem lowerFrom_simple {chars : List Char} (simple : Simple chars) (before after : List Char) :
    lowerFrom before (chars ++ after) = chars.map lowerChar ++ lowerFrom (chars.reverse ++ before) after := by
  induction chars generalizing before with
  | nil => rfl
  | cons c rest ih =>
    obtain ⟨⟨sigma, dotted⟩, others⟩ := List.forall_mem_cons.mp simple
    simp [lowerFrom, sigma, dotted, ih others]

theorem lowerFrom_suffix (before chars after : List Char) :
    lowerFrom (chars.reverse ++ before) after <:+ lowerFrom before (chars ++ after) := by
  induction chars generalizing before with
  | nil => exact List.suffix_rfl
  | cons c rest ih =>
    rw [List.reverse_cons, List.append_assoc]
    exact (ih (c :: before)).trans (List.suffix_append ..)

/-- Lower case keeps a word in its place. -/
theorem infix_lower {word text : List Char} (simple : Simple word) (inside : word <:+: text) :
    word.map lowerChar <:+: lower text := by
  obtain ⟨before, after, rfl⟩ := inside
  have rest := lowerFrom_suffix [] before (word ++ after)
  rw [lowerFrom_simple simple] at rest
  rw [List.append_assoc]
  exact (List.prefix_append ..).isInfix.trans rest.isInfix

end Text

namespace Sql

theorem mem_mapM {write : Piece → Namer String} {pieces : List Piece} {piece : Piece} {content : String}
    {start final : Naming} {texts : List String} (plain : write piece = pure content) (member : piece ∈ pieces)
    (wrote : (pieces.mapM write).run start = .ok (texts, final)) : content ∈ texts := by
  induction pieces generalizing start texts with
  | nil => cases member
  | cons head rest ih =>
    rw [List.mapM_cons] at wrote
    obtain ⟨⟨first, middle⟩, one, wrote⟩ := Except.bind_ok wrote
    obtain ⟨⟨others, last⟩, more, same⟩ := Except.bind_ok wrote
    cases same
    rcases List.mem_cons.mp member with rfl | later
    · rw [plain] at one
      cases one
      exact .head _
    · exact .tail _ (ih later more)

/-- Final text stands in what is written as it is. -/
theorem infix_written {write : Piece → Namer String} {pieces : List Piece} {content text : String}
    (plain : write (.text content) = pure content) (member : Piece.text content ∈ pieces)
    (wrote : writtenText write pieces = .ok text) : content.toList <:+: text.toList := by
  obtain ⟨texts, made, same⟩ := Except.bind_ok wrote
  cases same
  obtain ⟨⟨_, final⟩, ran, same⟩ := Except.map_ok made
  cases same
  have inside := mem_mapM plain member ran
  rw [String.toList_join]
  obtain ⟨before, after, rfl⟩ := List.append_of_mem inside
  rw [List.flatMap_append, List.flatMap_cons]
  exact ⟨_, _, List.append_assoc ..⟩

end Sql

end DataGrid
