import Mathlib.Data.List.Forall2
import DataGrid.Proofs.PredicateFold

/-! Two runs side by side: their conditions. What counts as written alike is a parameter, a relation of pieces that
holds of what is the same and respects concatenation. Conditions of one shape whose tests are written alike are twins;
they are written alike as a whole, and joining and cutting lists keeps them twins. -/

namespace DataGrid

open Sql

/-- A way in which what two runs write can be alike. It does not look at the values that are bound, nor at how a text
is cut. -/
structure Likeness where
  relates : List Piece → List Piece → Prop
  refl (pieces : List Piece) : relates pieces pieces
  append {first second third fourth : List Piece} (one : relates first second) (other : relates third fourth) :
    relates (first ++ third) (second ++ fourth)
  texts {first second third fourth : String} (one : relates [.text first] [.text second])
    (other : relates [.text third] [.text fourth]) : relates [.text (first ++ third)] [.text (second ++ fourth)]
  bound (base : String) (value other : Value) : relates [.bound base value] [.bound base other]

variable {like : Likeness} {dialect : Dialect}

theorem Likeness.cons (piece : Piece) {first second : List Piece} (rest : like.relates first second) :
    like.relates (piece :: first) (piece :: second) := like.append (like.refl [piece]) rest

theorem Likeness.separated (separator : String) {first second : List (List Piece)}
    (each : List.Forall₂ like.relates first second) :
    like.relates (Sql.separated separator first) (Sql.separated separator second) := by
  induction each with
  | nil => exact like.refl []
  | cons head tail ih =>
    cases tail with
    | nil => exact head
    | cons next more => exact like.append head (like.cons _ ih)

theorem Likeness.flatMap {α : Type} {write : α → List Piece} {first second : List α}
    (each : List.Forall₂ (fun a b => like.relates (write a) (write b)) first second) :
    like.relates (first.flatMap write) (second.flatMap write) := by
  induction each with
  | nil => exact like.refl []
  | cons head _ ih => exact like.append head ih

namespace Sql

/-- Tests that are written alike and get parentheses in the same places. -/
structure Atom.Twin (like : Likeness) (dialect : Dialect) (first second : Atom) : Prop where
  shielded : first.isShielded = second.isShielded
  pieces : like.relates (first.pieces dialect) (second.pieces dialect)

mutual

inductive Cond.Twin (like : Likeness) (dialect : Dialect) : Cond → Cond → Prop where
  | atom {first second} (tests : Atom.Twin like dialect first second) :
      Cond.Twin like dialect (.atom first) (.atom second)
  | exists (rows : Rows) {first second} (inner : Cond.Twin like dialect first second) :
      Cond.Twin like dialect (.exists rows first) (.exists rows second)
  | group {first second} (inner : Cond.Twin like dialect first second) :
      Cond.Twin like dialect (.group first) (.group second)
  | joined (junction : Junction) {first second} (terms : Cond.AllTwin like dialect first second) :
      Cond.Twin like dialect (.joined junction first) (.joined junction second)

inductive Cond.AllTwin (like : Likeness) (dialect : Dialect) : List Cond → List Cond → Prop where
  | nil : Cond.AllTwin like dialect [] []
  | cons {first second others rest} (head : Cond.Twin like dialect first second)
      (tail : Cond.AllTwin like dialect others rest) : Cond.AllTwin like dialect (first :: others) (second :: rest)

end

end Sql

theorem Sql.Atom.Twin.refl (test : Atom) : Atom.Twin like dialect test test := ⟨rfl, like.refl _⟩

theorem Sql.Cond.allTwin_iff {first second : List Cond} :
    Cond.AllTwin like dialect first second ↔ List.Forall₂ (Cond.Twin like dialect) first second := by
  constructor
  · intro twins
    induction first generalizing second with
    | nil =>
      cases twins
      exact .nil
    | cons cond rest ih =>
      cases twins with
      | cons head tail => exact .cons head (ih tail)
  · intro twins
    induction twins with
    | nil => exact .nil
    | cons head _ ih => exact .cons head ih

mutual

theorem Sql.Cond.Twin.refl (cond : Cond) : Cond.Twin like dialect cond cond := by
  match cond with
  | .atom test => exact .atom (.refl test)
  | .exists rows inner => exact .exists rows (Cond.Twin.refl inner)
  | .group inner => exact .group (Cond.Twin.refl inner)
  | .joined junction terms => exact .joined junction (Cond.AllTwin.refl terms)

theorem Sql.Cond.AllTwin.refl (conds : List Cond) : Cond.AllTwin like dialect conds conds := by
  match conds with
  | [] => exact .nil
  | cond :: rest => exact .cons (Cond.Twin.refl cond) (Cond.AllTwin.refl rest)

end

mutual

theorem Sql.Cond.Twin.steps {first second : Cond} (twins : Cond.Twin like dialect first second) :
    first.steps = second.steps := by
  match twins with
  | .atom _ => rfl
  | .exists _ inner | .group inner => rw [Cond.steps, Cond.steps, Cond.Twin.steps inner]
  | .joined _ terms => rw [Cond.steps, Cond.steps, Cond.AllTwin.steps terms]
termination_by structural twins

theorem Sql.Cond.AllTwin.steps {first second : List Cond} (twins : Cond.AllTwin like dialect first second) :
    Cond.mostSteps first = Cond.mostSteps second := by
  match twins with
  | .nil => rfl
  | .cons head tail => rw [Cond.mostSteps, Cond.mostSteps, Cond.Twin.steps head, Cond.AllTwin.steps tail]
termination_by structural twins

end

mutual

theorem Sql.Cond.Twin.pieces {first second : Cond} (twins : Cond.Twin like dialect first second) :
    like.relates (first.pieces dialect) (second.pieces dialect) := by
  match twins with
  | .atom tests => exact tests.pieces
  | .exists rows inner => exact like.append (like.cons _ (Cond.Twin.pieces inner)) (like.refl _)
  | .group inner => exact like.append (like.cons _ (Cond.Twin.pieces inner)) (like.refl _)
  | .joined junction terms =>
    rw [Cond.pieces, Cond.pieces]
    exact like.separated _ (Cond.AllTwin.pieces terms)
termination_by structural twins

theorem Sql.Cond.AllTwin.pieces {first second : List Cond} (twins : Cond.AllTwin like dialect first second) :
    List.Forall₂ like.relates (Cond.listPieces dialect first) (Cond.listPieces dialect second) := by
  match twins with
  | .nil => exact .nil
  | .cons head tail => exact .cons (Cond.Twin.pieces head) (Cond.AllTwin.pieces tail)
termination_by structural twins

end

namespace Sql.Cond

/-- Twins are written alike, down to a refusal of what is nested too deep. -/
theorem Twin.written {first second : Cond} (twins : Cond.Twin like dialect first second) :
    like.relates (first.written dialect) (second.written dialect) := by
  rw [Cond.written, Cond.written, twins.steps]
  split
  · exact like.refl _
  · exact twins.pieces

theorem Twin.core {first second : Cond} (twins : Cond.Twin like dialect first second) :
    Cond.Twin like dialect first.core second.core := by
  fun_induction Cond.core first generalizing second with
  | case1 inner ih =>
    cases twins with
    | group inner =>
      rw [Cond.core]
      exact ih inner
  | case2 first other =>
    cases twins with
    | group inner => exact absurd rfl (other _)
    | atom tests => exact .atom tests
    | «exists» rows inner => exact .exists rows inner
    | joined junction terms => exact .joined junction terms

theorem Twin.shield {first second : Cond} (twins : Cond.Twin like dialect first second) (junction : Junction) :
    Cond.Twin like dialect (first.shield junction) (second.shield junction) := by
  cases twins with
  | atom tests =>
    rw [shield_atom, shield_atom, tests.shielded]
    split
    · exact .group (.atom tests)
    · exact .atom tests
  | «exists» rows inner => exact .group (.exists rows inner)
  | group inner => exact .group inner
  | joined word terms =>
    cases word with
    | and => exact .joined .and terms
    | or =>
      rw [Cond.shield, Cond.shield]
      split
      · exact .group (.joined .or terms)
      · exact .joined .or terms

theorem Twin.termsOf {first second : Cond} (twins : Cond.Twin like dialect first second) (junction : Junction) :
    List.Forall₂ (Cond.Twin like dialect) (first.termsOf junction) (second.termsOf junction) := by
  have alone := List.Forall₂.cons (twins.shield junction) .nil
  have cores := twins.core
  unfold Cond.termsOf
  cases one : first.core <;> cases other : second.core <;> rw [one, other] at cores <;> cases cores
  case joined.joined terms word others same =>
    dsimp only
    split
    · exact allTwin_iff.mp same
    · exact alone
  all_goals exact alone

theorem Twin.join (junction : Junction) {first second : List Cond}
    (twins : List.Forall₂ (Cond.Twin like dialect) first second) :
    Cond.Twin like dialect (Cond.join junction first) (Cond.join junction second) := by
  have terms : List.Forall₂ (Cond.Twin like dialect) (first.flatMap (Cond.termsOf junction))
      (second.flatMap (Cond.termsOf junction)) := by
    induction twins with
    | nil => exact .nil
    | cons head _ ih => exact List.rel_append (head.termsOf junction) ih
  match twins with
  | .nil => exact .joined junction .nil
  | .cons head .nil => exact head
  | .cons _ (.cons _ _) => exact .joined junction (allTwin_iff.mpr terms)

end Sql.Cond

inductive Sql.Clause.Twin (like : Likeness) (dialect : Dialect) : Clause → Clause → Prop where
  | cond {first second} (twins : Cond.Twin like dialect first second) : Twin like dialect (.cond first) (.cond second)
  | settled (flag : Bool) : Twin like dialect (.settled flag) (.settled flag)

namespace Sql.Clause

theorem Twin.any_decides {junction : Junction} {first second : List Clause}
    (twins : List.Forall₂ (Clause.Twin like dialect) first second) :
    first.any (decides junction) = second.any (decides junction) := by
  induction twins with
  | nil => rfl
  | cons head _ ih =>
    rw [List.any_cons, List.any_cons, ih]
    cases head <;> rfl

theorem Twin.conds {first second : List Clause} (twins : List.Forall₂ (Clause.Twin like dialect) first second) :
    List.Forall₂ (Cond.Twin like dialect) (first.filterMap cond?) (second.filterMap cond?) := by
  induction twins with
  | nil => exact .nil
  | cons head _ ih =>
    cases head with
    | cond twins => exact .cons twins ih
    | settled flag => exact ih

theorem Twin.join (junction : Junction) {first second : List Clause}
    (twins : List.Forall₂ (Clause.Twin like dialect) first second) :
    Clause.Twin like dialect (Clause.join junction first) (Clause.join junction second) := by
  have decided : first.any (decides junction) = second.any (decides junction) := Twin.any_decides twins
  have conds := Twin.conds twins
  cases twins with
  | nil => exact .cond (.refl _)
  | cons head tail =>
    cases tail with
    | nil => exact head
    | cons next rest =>
      simp only [Clause.join]
      rw [decided]
      split
      · exact .cond (.refl _)
      · generalize List.filterMap cond? _ = one at conds ⊢
        generalize List.filterMap cond? _ = other at conds ⊢
        cases conds with
        | nil => exact .cond (.refl _)
        | cons head tail => exact .cond (Cond.Twin.join junction (.cons head tail))

end Sql.Clause

namespace Store

theorem alternatives_twin {α β : Type} {relation : α → β → Prop} {first : List (Junction × α)}
    {second : List (Junction × β)} (twins : List.Forall₂ (fun a b => a.1 = b.1 ∧ relation a.2 b.2) first second) :
    List.Forall₂ (List.Forall₂ relation) (alternatives first) (alternatives second) := by
  induction twins with
  | nil => exact .nil
  | @cons one other rest more head tail ih =>
    obtain ⟨word, item⟩ := one
    obtain ⟨word', item'⟩ := other
    cases tail with
    | nil => exact .cons (.cons head.2 .nil) .nil
    | @cons next next' others others' after later =>
      obtain ⟨junction, content⟩ := next
      obtain ⟨junction', content'⟩ := next'
      obtain ⟨rfl, _⟩ := after
      cases junction with
      | or =>
        rw [alternatives_or, alternatives_or]
        exact .cons (.cons head.2 .nil) ih
      | and =>
        obtain ⟨chunk, chunks, cut⟩ := alternatives_cons .and content others
        obtain ⟨chunk', chunks', cut'⟩ := alternatives_cons .and content' others'
        rw [cut, cut'] at ih
        rw [alternatives_and word cut, alternatives_and word' cut']
        cases ih with
        | cons same rest => exact .cons (.cons head.2 same) rest

/-- Lists of twin clauses with the same words are read as twins. -/
theorem fold_twin {first second : List (Junction × Clause)}
    (twins : List.Forall₂ (fun a b => a.1 = b.1 ∧ Clause.Twin like dialect a.2 b.2) first second) :
    Option.Rel (Clause.Twin like dialect) (fold first) (fold second) := by
  have chunks := alternatives_twin twins
  unfold fold
  generalize alternatives first = one at chunks ⊢
  generalize alternatives second = other at chunks ⊢
  cases chunks with
  | nil => exact .none
  | cons head tail =>
    refine .some (Clause.Twin.join .or ?_)
    rw [List.forall₂_map_left_iff, List.forall₂_map_right_iff]
    exact (List.Forall₂.cons head tail).imp fun _ _ chunk => Clause.Twin.join .and chunk

end Store

theorem Sql.Clause.Twin.filter {first second : Option Cond} {one other : Option Clause}
    (bases : Option.Rel (Cond.Twin like dialect) first second)
    (clauses : Option.Rel (Clause.Twin like dialect) one other) :
    Option.Rel (Cond.Twin like dialect) (Clause.filter? first one) (Clause.filter? second other) := by
  cases clauses with
  | none => exact bases
  | some clauses =>
    cases clauses with
    | cond added =>
      cases bases with
      | none => exact .some added
      | some before =>
        exact .some (.joined .and (.cons (before.shield .and) (.cons (added.shield .and) .nil)))
    | settled flag =>
      cases flag with
      | false => exact .some (.refl _)
      | true =>
        cases bases with
        | none => exact .some (.refl _)
        | some before => exact .some before

end DataGrid
