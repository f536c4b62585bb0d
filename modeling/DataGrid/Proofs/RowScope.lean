import DataGrid.Proofs.ColumnTables
import DataGrid.Proofs.HandleCondition

/-! What conditions say about the rows of a database. A name in a condition stands for the innermost table of that name
around it: a subquery looks at its own rows first, and then at those of the statement that it stands in. -/

namespace DataGrid

open Sql

/-- What stands in the columns of a row, under their spelled names; null is none. -/
abbrev TableRow (Cell : Type) := String → Option Cell

/-- A table in a `FROM`, and the row of it that a condition is about. -/
structure Frame (Cell : Type) where
  table : String
  row : TableRow Cell

/-- The rows of a database, and the meaning of its operators. -/
structure Contents (Cell : Type) where
  rows : (table : String) → List (TableRow Cell)
  same : Cell → Cell → Bool
  same_comm : ∀ first second, same first second = same second first
  lower : Cell → Cell
  cast : (type : String) → Cell → Option Cell
  compares : Comparison → Value → Cell → Truth
  isTruth : (flag : Bool) → Cell → Truth
  member : List Value → (negated : Bool) → Option Cell → Truth
  regexp : (operator pattern : String) → Cell → Truth
  regexpLike : (pattern : String) → (ignoreCase : Bool) → Cell → Truth
  /-- What a text comes to that names no column in scope. -/
  text : List (Frame Cell) → String → Option Cell
  raw : List (Frame Cell) → String → Truth

theorem Sql.read?_map {α β : Type} (value : β → Truth) (f : α → β) (tokens : List (Token α)) :
    read? value (tokens.map (Token.map f)) = read? (fun content => value (f content)) tokens := by
  suffices both : ∀ outer before current,
      readOperand value outer before current (tokens.map (Token.map f)) =
          readOperand (fun content => value (f content)) outer before current tokens ∧
        readWord value outer before current (tokens.map (Token.map f)) =
          readWord (fun content => value (f content)) outer before current tokens from (both _ _ _).1
  induction tokens with
  | nil => exact fun _ _ _ => ⟨rfl, rfl⟩
  | cons token rest ih =>
    intro outer before current
    cases token with
    | opening => exact ⟨(ih _ _ _).1, rfl⟩
    | closing =>
      refine ⟨rfl, ?_⟩
      cases outer with
      | nil => rfl
      | cons pending more => exact (ih _ _ _).2
    | word junction =>
      refine ⟨rfl, ?_⟩
      cases junction <;> exact (ih _ _ _).1
    | operand content => exact ⟨(ih _ _ _).2, rfl⟩

theorem accepts_cond {reader : Reader} {assignment : Assignment} {cond : Cond} (whole : cond.Whole reader) :
    Accepts reader assignment (some cond) ↔ cond.value reader assignment = .yes :=
  accepts_iff fun _ held => Option.some.inj held ▸ whole

namespace Contents

variable {Cell : Type} (contents : Contents Cell) (reader : Reader) (adapter : Adapter)

def equal : Option Cell → Option Cell → Truth
  | some first, some second => .ofBool (contents.same first second)
  | _, _ => .unknown

/-- What an expression comes to when its column is taken from a row. -/
def within (row : TableRow Cell) : Expr → Option Cell
  | .literal sql => (Text.splitLast? '.' sql).bind fun (_, name) => row name
  | .column _ name => row (adapter.quoteIdentifier name)
  | .lower inner => (within row inner).map contents.lower
  | .cast inner type => (within row inner).bind (contents.cast type)

/-- The row of the innermost table whose name is spelled like this. -/
def rowOf? (scope : List (Frame Cell)) (spelled : String) : Option (TableRow Cell) :=
  (scope.find? fun frame => adapter.quoteIdentifier frame.table == spelled).map Frame.row

/-- What an expression comes to in a scope. -/
def cell (scope : List (Frame Cell)) : Expr → Option Cell
  | .literal sql =>
    match ((Expr.literal sql).owner? adapter).bind (rowOf? adapter scope) with
    | some row => contents.within adapter row (.literal sql)
    | none => contents.text scope sql
  | .column table name =>
    match rowOf? adapter scope (adapter.quoteIdentifier table) with
    | some row => row (adapter.quoteIdentifier name)
    | none => contents.text scope (adapter.quoteIdentifier table ++ "." ++ adapter.quoteIdentifier name)
  | .lower inner => (cell scope inner).map contents.lower
  | .cast inner type => (cell scope inner).bind (contents.cast type)

/-- The truth of a test, given what its expressions come to. Raw text is no test: a database cuts it up. -/
def truth (cell : Expr → Option Cell) : Atom → Truth
  | .truth flag => .ofBool flag
  | .compare left operator value => (cell left).elim .unknown (contents.compares operator value)
  | .isTruth left flag => (cell left).elim .unknown (contents.isTruth flag)
  | .isNull left negated => .ofBool ((cell left).isNone != negated)
  | .member left values negated => contents.member values negated (cell left)
  | .sameColumn left right => contents.equal (cell left) (cell right)
  | .regexp left operator pattern => (cell left).elim .unknown (contents.regexp operator pattern)
  | .regexpLike left pattern ignoreCase => (cell left).elim .unknown (contents.regexpLike pattern ignoreCase)
  | .fragment _ => .unknown

/-- What the `FROM` of a subquery can bring into scope: a row of its table, or one of each that belong together. -/
def brought (scope : List (Frame Cell)) : Rows → List (List (Frame Cell))
  | .table name => (contents.rows name).map fun row => [⟨name, row⟩]
  | .joined name other left right =>
    ((contents.rows name ×ˢ contents.rows other).map fun (row, second) => [⟨name, row⟩, ⟨other, second⟩]).filter
      fun frames => contents.truth (contents.cell adapter (frames ++ scope)) (.sameColumn left right) == .yes

/-- The value of an operand of a test. A test has no subquery as an operand. -/
def operandTruth (scope : List (Frame Cell)) : Operand → Truth
  | .constant flag => .ofBool flag
  | .predicate (.test atom) => contents.truth (contents.cell adapter scope) atom
  | .predicate (.related ..) => .unknown
  | .text sql => contents.raw scope sql

mutual

/-- The tokens of a condition, each operand with its truth in a scope. A subquery is true when its condition is read as
true of some row that it brings in. -/
def valued (scope : List (Frame Cell)) : Cond → List (Token Truth)
  | .atom test => (test.tokens reader).map (Token.map (contents.operandTruth adapter scope))
  | .exists rows inner =>
    [.operand (.ofBool ((contents.brought adapter scope rows).any fun frames =>
      read? id (valued (frames ++ scope) inner) == some .yes))]
  | .group inner => .opening :: valued scope inner ++ [.closing]
  | .joined junction terms => [Token.word junction].intercalate (allValued scope terms)

def allValued (scope : List (Frame Cell)) : List Cond → List (List (Token Truth))
  | [] => []
  | cond :: rest => valued scope cond :: allValued scope rest

end

/-- The truth of predicates in a scope. -/
def assignment (scope : List (Frame Cell)) : Assignment where
  predicate
    | .test atom => contents.truth (contents.cell adapter scope) atom
    | .related rows inner =>
      .ofBool ((contents.brought adapter scope rows).any fun frames =>
        read? id (contents.valued reader adapter (frames ++ scope) inner) == some .yes)
  text := contents.raw scope

variable {contents reader adapter} {scope : List (Frame Cell)}

private theorem operandTruth_eq (test : Atom) :
    (test.tokens reader).map (Token.map (contents.operandTruth adapter scope)) =
      (test.tokens reader).map (Token.map (contents.assignment reader adapter scope).value) := by
  cases test with
  | member left values negated =>
    cases values with
    | nil =>
      cases listed : reader.dialect.emptyList <;> cases negated <;> simp only [Atom.tokens, listed] <;> rfl
    | cons => rfl
  | fragment content =>
    rw [Atom.tokens, List.map_map, List.map_map]
    exact List.map_congr_left fun token _ => by cases token <;> rfl
  | _ => rfl

mutual

theorem valued_eq (cond : Cond) :
    contents.valued reader adapter scope cond =
      (cond.tokens reader).map (Token.map (contents.assignment reader adapter scope).value) := by
  match cond with
  | .atom test =>
    rw [valued, operandTruth_eq]
    simp [Cond.tokens, Cond.outline, Token.expand, Predicate.tokens]
  | .exists rows inner => rw [valued]; rfl
  | .group inner =>
    rw [valued, valued_eq inner, Cond.tokens_group]
    simp [Token.map]
  | .joined junction terms =>
    have flat (f : Token Operand → Token Truth) (tokens : List (Token Operand)) :
        tokens.map f = tokens.flatMap fun token => [f token] := List.map_eq_flatMap
    rw [valued, allValued_eq terms, Cond.tokens_joined, flat, flatMap_intercalate, List.map_map]
    simp only [flat]
    rfl

theorem allValued_eq (conds : List Cond) :
    contents.allValued reader adapter scope conds =
      conds.map fun cond => (cond.tokens reader).map (Token.map (contents.assignment reader adapter scope).value) := by
  match conds with
  | [] => rfl
  | cond :: rest => rw [allValued, valued_eq cond, allValued_eq rest, List.map_cons]

end

@[simp] theorem assignment_test (atom : Atom) :
    (contents.assignment reader adapter scope).predicate (.test atom) =
      contents.truth (contents.cell adapter scope) atom := rfl

theorem value_sameColumn {assignment : Assignment} (left right : Expr) :
    (Cond.atom (.sameColumn left right)).value reader assignment =
      assignment.predicate (.test (.sameColumn left right)) :=
  rfl

theorem value_exists {assignment : Assignment} (rows : Rows) (inner : Cond) :
    (Cond.exists rows inner).value reader assignment = assignment.predicate (.related rows inner) := rfl

theorem ofBool_eq_yes {flag : Bool} : Truth.ofBool flag = .yes ↔ flag = true := by
  cases flag <;> simp [Truth.ofBool]

theorem equal_comm (first second : Option Cell) : contents.equal first second = contents.equal second first := by
  cases first <;> cases second <;> simp [equal, contents.same_comm]

/-- A subquery is true when its condition holds of some row that it brings in. -/
theorem related_iff {rows : Rows} {inner : Cond} (whole : inner.Whole reader) :
    (contents.assignment reader adapter scope).predicate (.related rows inner) = .yes ↔
      ∃ frames ∈ contents.brought adapter scope rows,
        inner.value reader (contents.assignment reader adapter (frames ++ scope)) = .yes := by
  have read (frames : List (Frame Cell)) : read? id (contents.valued reader adapter (frames ++ scope) inner) =
      some (inner.value reader (contents.assignment reader adapter (frames ++ scope))) := by
    rw [valued_eq, read?_map]
    exact (whole.reads _).1.read?
  simp [assignment, read, ofBool_eq_yes]

section Lookup
variable {frames : List (Frame Cell)} {row : TableRow Cell} {table spelled : String} {expression : Expr}

theorem rowOf?_head : rowOf? adapter (⟨table, row⟩ :: scope) (adapter.quoteIdentifier table) = some row := by
  rw [rowOf?, List.find?_cons_of_pos (by simp)]
  rfl

/-- Tables of other names do not hide a table. -/
theorem rowOf?_append (apart : ∀ frame ∈ frames, adapter.quoteIdentifier frame.table ≠ spelled) :
    rowOf? adapter (frames ++ scope) spelled = rowOf? adapter scope spelled := by
  have none : frames.find? (fun frame => adapter.quoteIdentifier frame.table == spelled) = none := by
    rw [List.find?_eq_none]
    intro frame member same
    exact apart frame member (eq_of_beq same)
  rw [rowOf?, List.find?_append, none, Option.none_or, rowOf?]

/-- A column of a table in scope is taken from the row of that table. -/
theorem cell_owned (owner : expression.owner? adapter = some spelled) (found : rowOf? adapter scope spelled = some row) :
    contents.cell adapter scope expression = contents.within adapter row expression := by
  induction expression with
  | literal sql => rw [cell, owner, Option.bind_some, found]
  | column table name =>
    cases owner
    rw [cell, found]
    rfl
  | lower inner ih => rw [cell, within, ih owner]
  | cast inner type ih => rw [cell, within, ih owner]

end Lookup

end Contents

end DataGrid
