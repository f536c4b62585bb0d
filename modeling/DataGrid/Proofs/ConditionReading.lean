import DataGrid.Proofs.SqlGrammar
import DataGrid.Sql.Render

/-! A condition as its tokens: the text that is written is that of the tokens, one after the other. Where
every list keeps its terms apart the tokens read as the condition's own value; only raw text with an `or`
that stands open can come apart in a list joined by `and`. -/

namespace DataGrid.Sql

/-- What is written in one piece: a test, or a search for related rows. -/
inductive Predicate where
  | test (atom : Atom)
  | related (rows : Rows) (inner : Cond)

inductive Operand where
  | constant (flag : Bool)
  | predicate (content : Predicate)
  /-- A text inside raw SQL that no word or parenthesis divides. -/
  | text (sql : String)

/-- A database's way of reading: its dialect, and how it cuts raw SQL into words, parentheses and the texts
between them. -/
structure Reader where
  dialect : Dialect
  cut : Fragment → List (Token String)

/-- The truth of the predicates in one row. -/
structure Assignment where
  predicate : Predicate → Truth
  text : String → Truth

def Assignment.value (assignment : Assignment) : Operand → Truth
  | .constant flag => .ofBool flag
  | .predicate content => assignment.predicate content
  | .text sql => assignment.text sql

variable (reader : Reader) (assignment : Assignment)

/-- The tokens of a test. After `IN` some databases write an empty list as a null and a comparison of
constants, which is an operand of its own. -/
def Atom.tokens : Atom → List (Token Operand)
  | .truth flag => [.operand (.constant flag)]
  | .member left [] negated =>
    match reader.dialect.emptyList, negated with
    | .subquery, _ => [.operand (.predicate (.test (.member left [] negated)))]
    | .constants, false =>
      [.operand (.predicate (.test (.member left [.null] false))), .word .and, .opening, .operand (.constant false),
        .closing]
    | .constants, true =>
      [.opening, .operand (.predicate (.test (.member left [.null] true))), .word .or, .opening,
        .operand (.constant true), .closing, .closing]
  | .fragment content => (reader.cut content).map (Token.map .text)
  | test => [.operand (.predicate (.test test))]

def Predicate.tokens : Predicate → List (Token Operand)
  | .test atom => atom.tokens reader
  | .related rows inner => [.operand (.predicate (.related rows inner))]

def Predicate.value (predicate : Predicate) : Truth :=
  (read? assignment.value (predicate.tokens reader)).getD .unknown

def Predicate.pieces (dialect : Dialect) : Predicate → List Piece
  | .test atom => atom.pieces dialect
  | .related rows inner => (Cond.exists rows inner).pieces dialect

def Token.pieces (dialect : Dialect) : Token Predicate → List Piece
  | .opening => [.text "("]
  | .closing => [.text ")"]
  | .word junction => [.text junction.separator]
  | .operand predicate => predicate.pieces dialect

/-- A token with its predicate cut up as the database cuts its text. -/
def Token.expand : Token Predicate → List (Token Operand)
  | .opening => [.opening]
  | .closing => [.closing]
  | .word junction => [.word junction]
  | .operand predicate => predicate.tokens reader

namespace Cond

mutual

def outline : Cond → List (Token Predicate)
  | .atom test => [.operand (.test test)]
  | .exists rows inner => [.operand (.related rows inner)]
  | .group inner => .opening :: inner.outline ++ [.closing]
  | .joined junction terms => [Token.word junction].intercalate (outlines terms)

def outlines : List Cond → List (List (Token Predicate))
  | [] => []
  | cond :: rest => cond.outline :: outlines rest

end

def tokens (cond : Cond) : List (Token Operand) := cond.outline.flatMap (Token.expand reader)

mutual

def value : Cond → Truth
  | .atom test => (Predicate.test test).value reader assignment
  | .exists rows inner => (Predicate.related rows inner).value reader assignment
  | .group inner => inner.value
  | .joined junction terms => .join junction (values terms)

def values : List Cond → List Truth
  | [] => []
  | cond :: rest => cond.value :: values rest

end

/-- Whether a condition can be a term of a list joined by `and`: no `or` stands open in it. -/
def Tight : Cond → Prop
  | .atom test => Parses .conjunction (test.tokens reader)
  | .joined .or _ => False
  | _ => True

mutual

/-- Whether every list in a condition has terms, and keeps them apart. -/
def Whole : Cond → Prop
  | .atom test => Parses .disjunction (test.tokens reader)
  | .exists .. => True
  | .group inner => inner.Whole
  | .joined junction terms => terms ≠ [] ∧ AllWhole junction terms

def AllWhole (junction : Junction) : List Cond → Prop
  | [] => True
  | cond :: rest => (cond.Whole ∧ (junction = .and → cond.Tight reader)) ∧ AllWhole junction rest

end

theorem values_eq_map (conds : List Cond) : values reader assignment conds = conds.map (value reader assignment) := by
  induction conds with
  | nil => rfl
  | cons cond rest ih => rw [values, ih, List.map_cons]

theorem allWhole_iff (junction : Junction) (conds : List Cond) :
    AllWhole reader junction conds ↔
      ∀ cond ∈ conds, cond.Whole reader ∧ (junction = .and → cond.Tight reader) := by
  induction conds with
  | nil => simp [AllWhole]
  | cons cond rest ih => rw [AllWhole, ih, List.forall_mem_cons]

end Cond

theorem flatMap_intercalate {α β : Type} (f : α → List β) (separator : List α) (lists : List (List α)) :
    (separator.intercalate lists).flatMap f = (separator.flatMap f).intercalate (lists.map (List.flatMap f)) := by
  induction lists with
  | nil => rfl
  | cons first rest ih =>
    cases rest with
    | nil => simp
    | cons second more =>
      simp only [List.map_cons] at ih ⊢
      simp only [List.intercalate_cons_cons, List.flatMap_append, ih]

private theorem separated_eq (separator : String) (lists : List (List Piece)) :
    separated separator lists = [Piece.text separator].intercalate lists := by
  induction lists with
  | nil => rfl
  | cons first rest ih =>
    cases rest with
    | nil => simp [separated]
    | cons second more => simp [separated, ih, List.intercalate_cons_cons]

mutual

theorem Cond.pieces_outline (dialect : Dialect) (cond : Cond) :
    cond.pieces dialect = cond.outline.flatMap (Token.pieces dialect) := by
  match cond with
  | .atom test => simp [Cond.pieces, Cond.outline, Token.pieces, Predicate.pieces]
  | .exists rows inner => simp [Cond.outline, Token.pieces, Predicate.pieces]
  | .group inner =>
    have same := Cond.pieces_outline dialect inner
    simp [Cond.pieces, Cond.outline, Token.pieces, same]
  | .joined junction terms =>
    have same := Cond.listPieces_outlines dialect terms
    rw [Cond.pieces, Cond.outline, flatMap_intercalate, separated_eq, same]
    simp [Token.pieces]

theorem Cond.listPieces_outlines (dialect : Dialect) (conds : List Cond) :
    Cond.listPieces dialect conds = (Cond.outlines conds).map (List.flatMap (Token.pieces dialect)) := by
  match conds with
  | [] => rfl
  | cond :: rest =>
    have first := Cond.pieces_outline dialect cond
    have others := Cond.listPieces_outlines dialect rest
    rw [Cond.listPieces, Cond.outlines, List.map_cons, first, others]

end

/-- A condition that is not nested too deep is written token by token. -/
theorem Cond.written_outline (dialect : Dialect) (cond : Cond) (shallow : cond.steps ≤ stepLimit) :
    cond.written dialect = cond.outline.flatMap (Token.pieces dialect) := by
  rw [Cond.written, if_neg (by omega), Cond.pieces_outline]

namespace Cond

variable {reader assignment}

@[simp] theorem tokens_group (inner : Cond) :
    (Cond.group inner).tokens reader = .opening :: inner.tokens reader ++ [.closing] := by
  simp [tokens, outline, Token.expand]

private theorem outlines_eq_map (conds : List Cond) : outlines conds = conds.map outline := by
  induction conds with
  | nil => rfl
  | cons cond rest ih => rw [outlines, ih, List.map_cons]

@[simp] theorem tokens_joined (junction : Junction) (terms : List Cond) :
    (Cond.joined junction terms).tokens reader = [Token.word junction].intercalate (terms.map (tokens reader)) := by
  rw [tokens, outline, flatMap_intercalate, outlines_eq_map, List.map_map]
  simp only [Token.expand, Function.comp_def, List.flatMap_cons, List.flatMap_nil, List.append_nil]
  rfl

@[simp] theorem value_joined (junction : Junction) (terms : List Cond) :
    (Cond.joined junction terms).value reader assignment = .join junction (terms.map (value reader assignment)) := by
  rw [value, values_eq_map]

@[simp] theorem whole_joined (junction : Junction) (terms : List Cond) :
    (Cond.joined junction terms).Whole reader ↔
      terms ≠ [] ∧ ∀ term ∈ terms, term.Whole reader ∧ (junction = .and → term.Tight reader) := by
  rw [Whole, allWhole_iff]

end Cond

theorem Predicate.reads {reader : Reader} {predicate : Predicate} {rank : Rank}
    (parses : Parses rank (predicate.tokens reader)) (assignment : Assignment) :
    Reads assignment.value rank (predicate.tokens reader) (predicate.value reader assignment) := by
  obtain ⟨result, reads⟩ := parses assignment.value
  have found : predicate.value reader assignment = result := by
    rw [Predicate.value, reads.toDisjunction.read?, Option.getD_some]
  rwa [found]

mutual

/-- A condition whose lists keep their terms apart reads as its value. -/
theorem Cond.Whole.reads {reader : Reader} {cond : Cond} (whole : cond.Whole reader) (assignment : Assignment) :
    Reads assignment.value .disjunction (cond.tokens reader) (cond.value reader assignment) ∧
      (cond.Tight reader →
        Reads assignment.value .conjunction (cond.tokens reader) (cond.value reader assignment)) := by
  match cond with
  | .atom test =>
    have same : (Cond.atom test).tokens reader = (Predicate.test test).tokens reader := by
      simp [Cond.tokens, Cond.outline, Token.expand]
    rw [same]
    have reads {rank} (parses : Parses rank ((Predicate.test test).tokens reader)) := Predicate.reads parses assignment
    exact ⟨reads whole, reads⟩
  | .exists rows inner =>
    have single : Reads assignment.value .operand ((Cond.exists rows inner).tokens reader)
        (assignment.predicate (.related rows inner)) := .operand (Operand.predicate (.related rows inner))
    have found : (Cond.exists rows inner).value reader assignment = assignment.predicate (.related rows inner) := rfl
    rw [found]
    exact ⟨single.loosen .disjunction, fun _ => single.loosen .conjunction⟩
  | .group inner =>
    have enclosed := Reads.enclosed (Cond.Whole.reads (show inner.Whole reader from whole) assignment).1
    rw [Cond.tokens_group]
    exact ⟨enclosed.loosen .disjunction, fun _ => enclosed.loosen .conjunction⟩
  | .joined junction terms =>
    obtain ⟨some, each⟩ := whole
    have joined := Reads.intercalate junction (Cond.AllWhole.reads each assignment) (by simpa using some)
    rw [Cond.tokens_joined, Cond.value_joined]
    cases junction with
    | and => exact ⟨joined.toDisjunction, fun _ => joined⟩
    | or => exact ⟨joined, fun tight => tight.elim⟩

theorem Cond.AllWhole.reads {reader : Reader} {junction : Junction} {conds : List Cond}
    (each : Cond.AllWhole reader junction conds) (assignment : Assignment) :
    List.Forall₂ (Reads assignment.value junction.rank) (conds.map (Cond.tokens reader))
      (conds.map (Cond.value reader assignment)) := by
  match conds with
  | [] => exact .nil
  | cond :: rest =>
    obtain ⟨⟨whole, tight⟩, others⟩ := each
    have first := Cond.Whole.reads whole assignment
    refine .cons ?_ (Cond.AllWhole.reads others assignment)
    cases junction with
    | and => exact first.2 (tight rfl)
    | or => exact first.1

end

end DataGrid.Sql
