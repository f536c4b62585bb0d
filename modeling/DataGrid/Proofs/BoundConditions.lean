import DataGrid.Proofs.CountStatement

/-! Conditions with their values. A condition of plain tests is written as texts with a bound value in some of the gaps,
and the values stand in the order of the tests, however the conditions are joined and enclosed. Such pieces are written
with names of placeholders or with literals in the same gaps. -/

namespace DataGrid.Sql

variable {dialect : Dialect}

/-- Whether a piece is text or the place of one value. -/
def Piece.Plain : Piece → Prop
  | .text _ | .bound .. => True
  | _ => False

/-- Plain pieces with the values that they bind. -/
structure Carries (pieces : List Piece) (values : List Value) : Prop where
  plain : ∀ piece ∈ pieces, piece.Plain
  values : ∀ shared rest, valuesFrom shared (pieces ++ rest) = values ++ valuesFrom shared rest

namespace Carries

variable {first second pieces : List Piece} {one other values : List Value}

theorem nil : Carries [] [] := ⟨List.forall_mem_nil _, fun _ _ => rfl⟩

theorem text (content : String) (carried : Carries pieces values) : Carries (.text content :: pieces) values :=
  ⟨List.forall_mem_cons.mpr ⟨trivial, carried.plain⟩, carried.values⟩

theorem bound (base : String) (value : Value) (carried : Carries pieces values) :
    Carries (.bound base value :: pieces) (value :: values) where
  plain := List.forall_mem_cons.mpr ⟨trivial, carried.plain⟩
  values shared rest := congrArg (value :: ·) (carried.values shared rest)

theorem append (head : Carries first one) (tail : Carries second other) :
    Carries (first ++ second) (one ++ other) where
  plain := List.forall_mem_append.mpr ⟨head.plain, tail.plain⟩
  values shared rest := by rw [List.append_assoc, head.values, tail.values, List.append_assoc]

theorem boundValues (carried : Carries pieces values) : boundValues pieces = values := by
  have whole := carried.values [] []
  rwa [List.append_nil, valuesFrom, List.append_nil] at whole

end Carries

/-- The values of a test, none for a list of values and for raw text. -/
def Atom.values? : Atom → Option (List Value)
  | .compare _ _ value => some [value]
  | .regexp _ _ pattern | .regexpLike _ pattern _ => some [.text pattern]
  | .truth _ | .isTruth .. | .isNull .. | .sameColumn .. => some []
  | .member .. | .fragment _ => none

mutual

/-- The values that a condition binds, in the order in which its tests are written. -/
inductive Cond.Binds : Cond → List Value → Prop where
  | atom {test values} (binds : test.values? = some values) : Cond.Binds (.atom test) values
  | exists (rows : Rows) {inner values} (binds : Cond.Binds inner values) : Cond.Binds (.exists rows inner) values
  | group {inner values} (binds : Cond.Binds inner values) : Cond.Binds (.group inner) values
  | joined (junction : Junction) {terms values} (binds : Cond.AllBind terms values) :
      Cond.Binds (.joined junction terms) values

inductive Cond.AllBind : List Cond → List Value → Prop where
  | nil : Cond.AllBind [] []
  | cons {cond conds values others} (head : Cond.Binds cond values) (tail : Cond.AllBind conds others) :
      Cond.AllBind (cond :: conds) (values ++ others)

end

namespace Cond

variable {cond : Cond} {conds : List Cond} {junction : Junction} {values others : List Value}

theorem AllBind.append {first second : List Cond} (head : AllBind first values) (tail : AllBind second others) :
    AllBind (first ++ second) (values ++ others) := by
  induction first generalizing values with
  | nil =>
    cases head
    exact tail
  | cons cond rest ih =>
    cases head with
    | cons one more =>
      rw [List.append_assoc]
      exact .cons one (ih more)

theorem AllBind.single (binds : cond.Binds values) : AllBind [cond] values := by
  simpa using AllBind.cons binds .nil

theorem Binds.core (binds : cond.Binds values) : cond.core.Binds values := by
  fun_induction Cond.core cond with
  | case1 inner ih =>
    cases binds with
    | group within => exact ih within
  | case2 => exact binds

theorem Binds.shield (binds : cond.Binds values) (junction : Junction) : (cond.shield junction).Binds values := by
  rcases cond.shield_cases junction with same | same
  · rwa [same]
  · rw [same]
    exact .group binds

theorem Binds.termsOf (binds : cond.Binds values) (junction : Junction) : AllBind (cond.termsOf junction) values := by
  unfold Cond.termsOf
  split
  · next inner terms found =>
    split
    · have listed := binds.core
      rw [found] at listed
      cases listed
      assumption
    · exact .single (binds.shield junction)
  · exact .single (binds.shield junction)

theorem AllBind.flatMap_termsOf (binds : AllBind conds values) (junction : Junction) :
    AllBind (conds.flatMap (Cond.termsOf junction)) values := by
  induction conds generalizing values with
  | nil => exact binds
  | cons cond rest ih =>
    cases binds with
    | cons head tail => exact (head.termsOf junction).append (ih tail)

/-- Joining conditions keeps their values and the order of them. -/
theorem AllBind.join (binds : AllBind conds values) (junction : Junction) :
    (Cond.join junction conds).Binds values := by
  unfold Cond.join
  split
  · cases binds with
    | cons head tail =>
      cases tail
      rwa [List.append_nil]
  · exact .joined junction (binds.flatMap_termsOf junction)

theorem AllBind.enclosed (binds : AllBind conds values) : AllBind (conds.map .group) values := by
  induction conds generalizing values with
  | nil => exact binds
  | cons cond rest ih =>
    cases binds with
    | cons head tail => exact .cons (.group head) (ih tail)

end Cond

theorem Atom.carries {test : Atom} {values : List Value} (binds : test.values? = some values) :
    Carries (test.pieces dialect) values := by
  cases test with
  | truth | isTruth | isNull | sameColumn =>
    cases binds
    exact .text _ .nil
  | compare | regexp =>
    cases binds
    exact .text _ (.bound _ _ .nil)
  | regexpLike =>
    cases binds
    exact .text _ (.bound _ _ (.text _ .nil))
  | member | fragment => cases binds

mutual

/-- A condition is written with its values in their order. -/
theorem Cond.Binds.carries {cond : Cond} {values : List Value} (binds : cond.Binds values) :
    Carries (cond.pieces dialect) values := by
  match binds with
  | .atom binds =>
    rw [Cond.pieces]
    exact Atom.carries binds
  | .exists rows binds =>
    rw [Cond.pieces]
    simpa using (Cond.Binds.carries binds).text _ |>.append (.text ")" .nil)
  | .group binds =>
    rw [Cond.pieces]
    simpa using (Cond.Binds.carries binds).text "(" |>.append (.text ")" .nil)
  | .joined junction binds =>
    rw [Cond.pieces]
    exact Cond.AllBind.carries binds junction.separator

theorem Cond.AllBind.carries {conds : List Cond} {values : List Value} (binds : Cond.AllBind conds values)
    (separator : String) : Carries (separated separator (Cond.listPieces dialect conds)) values := by
  match binds with
  | .nil => exact .nil
  | .cons head .nil =>
    rw [List.append_nil]
    exact Cond.Binds.carries head
  | .cons head (.cons next more) =>
    rw [Cond.listPieces, Cond.listPieces, separated.eq_3 _ _ _ (by simp)]
    exact (Cond.Binds.carries head).append ((Cond.AllBind.carries (.cons next more) separator).text _)

end

/-- Plain pieces as a text with marks in the gaps for their values. -/
def fillGaps : List Piece → List String → String
  | .text content :: rest, marks => content ++ fillGaps rest marks
  | .bound .. :: rest, mark :: marks => mark ++ fillGaps rest marks
  | _, _ => ""

/-- Whether a mark is a placeholder, whatever the name in it. -/
def Dialect.IsPlaceholder (dialect : Dialect) (_ : Value) (mark : String) : Prop :=
  ∃ name, mark = dialect.placeholder.write name

def Dialect.IsLiteral (dialect : Dialect) (value : Value) (mark : String) : Prop := dialect.literal value = .ok mark

/-- Whether a text is written for pieces with values in the middle: first the text of those before, then that with a
mark for each value in the gaps, and then those behind, whose names are counted on. -/
def WrittenWith (write : Piece → Namer String) (marks : Value → String → Prop) (front added back : List Piece)
    (values : List Value) (text : String) : Prop :=
  ∃ head shown naming tail, writtenText write front = .ok head ∧ List.Forall₂ marks values shown ∧
    (back.mapM write).run' naming = .ok tail ∧ text = head ++ fillGaps added shown ++ String.join tail

section Writing

variable {write : Piece → Namer String} {marks : Value → String → Prop} {front added back : List Piece}
  {values : List Value} {text : String}

theorem mapM_append_ok {first second : List Piece} {start final : Naming} {texts : List String}
    (wrote : ((first ++ second).mapM write).run start = .ok (texts, final)) :
    ∃ one middle other, (first.mapM write).run start = .ok (one, middle) ∧
      (second.mapM write).run middle = .ok (other, final) ∧ one ++ other = texts := by
  rw [List.mapM_append] at wrote
  obtain ⟨⟨one, middle⟩, head, wrote⟩ := Except.bind_ok wrote
  obtain ⟨⟨other, last⟩, tail, same⟩ := Except.bind_ok wrote
  cases same
  exact ⟨one, middle, other, head, tail, rfl⟩

/-- Whether a way of writing keeps final text and leaves a mark for a value. -/
structure Marking (write : Piece → Namer String) (marks : Value → String → Prop) : Prop where
  text : ∀ content, write (.text content) = pure content
  bound : ∀ base value start mark final, (write (.bound base value)).run start = .ok (mark, final) → marks value mark

theorem Marking.placeholders (dialect : Dialect) : Marking (Piece.placeholders dialect) dialect.IsPlaceholder where
  text _ := rfl
  bound base value start mark final named := by
    obtain ⟨⟨name, last⟩, _, same⟩ := Except.bind_ok named
    cases same
    exact ⟨name, rfl⟩

theorem Marking.inline (dialect : Dialect) : Marking (Piece.inline dialect) dialect.IsLiteral where
  text _ := rfl
  bound base value start mark final wrote := by
    obtain ⟨found, made, same⟩ := Except.bind_ok wrote
    cases same
    exact made

/-- Plain pieces are written with a mark for each value. -/
theorem Marking.fillGaps (marking : Marking write marks) {pieces : List Piece} (plain : ∀ piece ∈ pieces, piece.Plain)
    {start final : Naming} {texts : List String} (wrote : (pieces.mapM write).run start = .ok (texts, final)) :
    ∃ shown, List.Forall₂ marks (boundValues pieces) shown ∧ String.join texts = Sql.fillGaps pieces shown := by
  induction pieces generalizing start texts with
  | nil =>
    cases wrote
    exact ⟨[], .nil, rfl⟩
  | cons piece rest ih =>
    obtain ⟨head, tail⟩ := List.forall_mem_cons.mp plain
    rw [List.mapM_cons] at wrote
    obtain ⟨⟨first, middle⟩, one, wrote⟩ := Except.bind_ok wrote
    obtain ⟨⟨others, last⟩, more, same⟩ := Except.bind_ok wrote
    cases same
    obtain ⟨shown, each, joined⟩ := ih tail more
    cases piece with
    | text content =>
      rw [marking.text] at one
      cases one
      exact ⟨shown, each, by rw [String.join_cons, joined, Sql.fillGaps]⟩
    | bound base value =>
      exact ⟨first :: shown, .cons (marking.bound _ _ _ _ _ one) each, by rw [String.join_cons, joined, Sql.fillGaps]⟩
    | name | numbered | members | fragment | refused | hidden => exact head.elim

/-- Wherever pieces with values stand, they are written with a mark for each value in its place. -/
theorem Carries.writtenWith (carried : Carries added values) (marking : Marking write marks)
    (wrote : writtenText write (front ++ added ++ back) = .ok text) :
    WrittenWith write marks front added back values text := by
  obtain ⟨texts, made, same⟩ := Except.bind_ok wrote
  cases same
  obtain ⟨⟨_, final⟩, ran, same⟩ := Except.map_ok made
  cases same
  obtain ⟨_, naming, tail, most, ended, rfl⟩ := mapM_append_ok ran
  obtain ⟨first, _, gaps, begun, filled, rfl⟩ := mapM_append_ok most
  obtain ⟨shown, each, joined⟩ := marking.fillGaps carried.plain filled
  rw [carried.boundValues] at each
  have start : (front.mapM write).run' {} = .ok first := congrArg (Except.map Prod.fst) begun
  have rest : (back.mapM write).run' naming = .ok tail := congrArg (Except.map Prod.fst) ended
  refine ⟨String.join first, shown, naming, tail, ?_, each, rest, ?_⟩
  · rw [writtenText, start, Except.ok_bind]
    rfl
  · rw [String.join_append, String.join_append, joined]

end Writing

end DataGrid.Sql
