import DataGrid.Proofs.ConditionReading

/-! What parentheses show. Tokens are read by their parentheses alone, with a stack of what stands before each one that
is open. Of a condition they show its groups, and the terms of its lists with the words between them. -/

namespace DataGrid.Sql

inductive Layout (α : Type) where
  | operand (content : α)
  | word (junction : Junction)
  | enclosed (inside : List (Layout α))

variable {α : Type}

namespace Layout

mutual

def tokens : Layout α → List (Token α)
  | .operand content => [.operand content]
  | .word junction => [.word junction]
  | .enclosed inside => .opening :: allTokens inside ++ [.closing]

def allTokens : List (Layout α) → List (Token α)
  | [] => []
  | first :: rest => first.tokens ++ allTokens rest

end

/-- Reads on after what is `done` since the last open parenthesis. -/
def readFrom (outer : List (List (Layout α))) (done : List (Layout α)) : List (Token α) → Option (List (Layout α))
  | [] => if outer.isEmpty then some done else none
  | .operand content :: rest => readFrom outer (done ++ [.operand content]) rest
  | .word junction :: rest => readFrom outer (done ++ [.word junction]) rest
  | .opening :: rest => readFrom (done :: outer) [] rest
  | .closing :: rest =>
    match outer with
    | before :: more => readFrom more (before ++ [.enclosed done]) rest
    | [] => none

/-- What the parentheses of tokens show, none when they do not match. -/
def read? (tokens : List (Token α)) : Option (List (Layout α)) := readFrom [] [] tokens

theorem allTokens_eq_flatMap (layouts : List (Layout α)) : allTokens layouts = layouts.flatMap tokens := by
  induction layouts with
  | nil => rfl
  | cons first rest ih => rw [allTokens, ih, List.flatMap_cons]

end Layout

mutual

private theorem Layout.readFrom_tokens (layout : Layout α) (outer : List (List (Layout α))) (done : List (Layout α))
    (rest : List (Token α)) :
    Layout.readFrom outer done (layout.tokens ++ rest) = Layout.readFrom outer (done ++ [layout]) rest := by
  match layout with
  | .operand content => rfl
  | .word junction => rfl
  | .enclosed inside =>
    have inner := Layout.readFrom_allTokens inside (done :: outer) [] (.closing :: rest)
    simp only [Layout.tokens, List.cons_append, List.append_assoc, List.nil_append, Layout.readFrom, inner]

private theorem Layout.readFrom_allTokens (layouts : List (Layout α)) (outer : List (List (Layout α)))
    (done : List (Layout α)) (rest : List (Token α)) :
    Layout.readFrom outer done (Layout.allTokens layouts ++ rest) = Layout.readFrom outer (done ++ layouts) rest := by
  match layouts with
  | [] => rw [Layout.allTokens, List.nil_append, List.append_nil]
  | first :: others =>
    rw [Layout.allTokens, List.append_assoc, Layout.readFrom_tokens first, Layout.readFrom_allTokens others,
      List.append_assoc, List.singleton_append]

end

/-- Reading finds the layout that was written. -/
theorem Layout.read_allTokens (layouts : List (Layout α)) : Layout.read? (Layout.allTokens layouts) = some layouts := by
  have read := Layout.readFrom_allTokens layouts [] [] []
  rwa [List.append_nil] at read

namespace Cond

mutual

def layout : Cond → List (Layout Predicate)
  | .atom test => [.operand (.test test)]
  | .exists rows inner => [.operand (.related rows inner)]
  | .group inner => [.enclosed inner.layout]
  | .joined junction terms => [Layout.word junction].intercalate (layouts terms)

def layouts : List Cond → List (List (Layout Predicate))
  | [] => []
  | cond :: rest => cond.layout :: layouts rest

end

end Cond

mutual

theorem Cond.tokens_layout (cond : Cond) : Layout.allTokens cond.layout = cond.outline := by
  match cond with
  | .atom test => rfl
  | .exists rows inner => rfl
  | .group inner =>
    have same := Cond.tokens_layout inner
    simp [Cond.layout, Layout.allTokens, Layout.tokens, Cond.outline, same]
  | .joined junction terms =>
    have same := Cond.tokens_layouts terms
    rw [Cond.layout, Cond.outline, Layout.allTokens_eq_flatMap, flatMap_intercalate, ← same]
    rfl

theorem Cond.tokens_layouts (conds : List Cond) :
    (Cond.layouts conds).map (List.flatMap Layout.tokens) = Cond.outlines conds := by
  match conds with
  | [] => rfl
  | cond :: rest =>
    have first := Cond.tokens_layout cond
    have others := Cond.tokens_layouts rest
    rw [Layout.allTokens_eq_flatMap] at first
    rw [Cond.layouts, Cond.outlines, List.map_cons, first, others]

end

/-- The parentheses of a condition show its layout. -/
theorem Cond.read_outline (cond : Cond) : Layout.read? cond.outline = some cond.layout := by
  rw [← cond.tokens_layout, Layout.read_allTokens]

end DataGrid.Sql
