import DataGrid.Proofs.BoundConditions
import DataGrid.Query

/-! Values that are put into a statement. A condition that is added to a base is written behind the condition of the
base, and so are its values; those of the base stand around them as they stood before. -/

namespace DataGrid.Sql

variable {dialect : Dialect}

/-- The values of pieces come in front of those that are behind, whose names are shared from there on. -/
theorem valuesFrom_split (shared : List String) (pieces : List Piece) :
    ∃ names, ∀ rest, valuesFrom shared (pieces ++ rest) = valuesFrom shared pieces ++ valuesFrom names rest := by
  induction pieces generalizing shared with
  | nil => exact ⟨shared, fun _ => rfl⟩
  | cons piece others ih =>
    cases piece with
    | fragment content =>
      obtain ⟨names, split⟩ := ih (content.freeNames ++ shared)
      exact ⟨names, fun rest => by simp only [List.cons_append, valuesFrom, split, List.append_assoc]⟩
    | _ =>
      obtain ⟨names, split⟩ := ih shared
      exact ⟨names, fun rest => by simp only [List.cons_append, valuesFrom, split]⟩

/-- Whether pieces bind the same values, whatever stands before and behind them. -/
def SameValues (first second : List Piece) : Prop :=
  ∀ shared rest, valuesFrom shared (first ++ rest) = valuesFrom shared (second ++ rest)

namespace SameValues

variable {first second pieces : List Piece}

theorem refl (pieces : List Piece) : SameValues pieces pieces := fun _ _ => rfl

theorem behind (same : SameValues first second) (before : List Piece) :
    SameValues (before ++ first) (before ++ second) := by
  intro shared rest
  obtain ⟨names, split⟩ := valuesFrom_split shared before
  rw [List.append_assoc, List.append_assoc, split, split, same]

theorem enclosed (pieces : List Piece) : SameValues (.text "(" :: pieces ++ [.text ")"]) pieces := by
  intro shared rest
  obtain ⟨names, split⟩ := valuesFrom_split shared pieces
  rw [List.cons_append, List.cons_append, valuesFrom, List.append_assoc, split, split]
  rfl

end SameValues

namespace Cond

variable {own cond : Cond}

theorem shield_values (junction : Junction) (cond : Cond) :
    SameValues ((cond.shield junction).pieces dialect) (cond.pieces dialect) := by
  rcases cond.shield_cases junction with same | same
  · rw [same]
    exact .refl _
  · rw [same, Cond.pieces]
    exact .enclosed _

theorem steps_shield (junction : Junction) (cond : Cond) : cond.steps ≤ (cond.shield junction).steps := by
  rcases cond.shield_cases junction with same | same
  · exact Nat.le_of_eq (congrArg Cond.steps same.symm)
  · rw [same, Cond.steps]
    exact Nat.le_add_right _ _

end Cond

namespace Select

/-- A statement without what follows its condition. -/
def upToFilter (statement : Select) : Select :=
  { statement with groups := [], havingOver := none, sorts := [], offset := none, limit := none }

private def lead (dialect : Dialect) (statement : Select) : List Piece :=
  .text ("SELECT " ++ (if statement.distinct then "DISTINCT " else "")) ::
    separated ", " (itemPieces dialect false (statement.source.any Source.isDerived) [] statement.items) ++
    match statement.source with
    | none => []
    | some source =>
      .text (if statement.items.isEmpty then "\nFROM " else " \nFROM ") ::
        joinedPieces dialect statement.joins source (source.pieces dialect)

private def whereClause (dialect : Dialect) (filter : Option Cond) : List Piece :=
  match filter with
  | none => []
  | some cond => .text " \nWHERE " :: cond.written dialect

private def rear (dialect : Dialect) (statement : Select) : List Piece :=
  optionalClause " GROUP BY " (statement.groups.map fun e => [.text (dialect.expr e)]) ++
    (match statement.havingOver with
      | none => []
      | some n => [.text " \nHAVING count(*) > ", .bound "count" (.int n)]) ++
    optionalClause " ORDER BY " ((statement.sorts.map (SortTerm.pieces dialect)).filter (!·.isEmpty)) ++
    windowPieces dialect statement.offset statement.limit

private theorem pieces_parts (dialect : Dialect) (statement : Select) :
    statement.pieces dialect false =
      statement.lead dialect ++ whereClause dialect statement.filter ++ statement.rear dialect := by
  obtain ⟨distinct, items, source, joins, filter, groups, havingOver, sorts, offset, limit⟩ := statement
  rw [Select.pieces.eq_def, lead, whereClause.eq_def, rear]
  cases source <;> cases filter <;> cases havingOver <;>
    simp only [List.append_assoc, List.cons_append, List.nil_append]

private theorem pieces_upToFilter (statement : Select) :
    statement.upToFilter.pieces dialect false = statement.lead dialect ++ whereClause dialect statement.filter := by
  rw [pieces_parts]
  exact List.append_nil _

/-- A statement with plain pieces put in behind the condition of a base, and with their values among its own. -/
structure Inserts (dialect : Dialect) (base statement : Select) (values later : List Value)
    (front added back : List Piece) : Prop where
  pieces : statement.pieces dialect false = front ++ added ++ back
  carries : Carries added values
  before : boundValues front = boundValues (base.upToFilter.pieces dialect false)
  own : boundValues (base.pieces dialect false) = boundValues front ++ later
  whole : boundValues (statement.pieces dialect false) = boundValues front ++ values ++ later

variable {base : Select} {cond : Cond} {values : List Value}

private theorem whereClause_shallow (shallow : cond.steps ≤ stepLimit) :
    whereClause dialect (some cond) = .text " \nWHERE " :: cond.pieces dialect := by
  rw [whereClause, Cond.written, if_neg (Nat.not_lt.mpr shallow)]

/-- Where a text is written, its condition was not too deep for that. -/
private theorem shallow_of_written {before after : List Piece} {text : String}
    (wrote : placeholderText dialect (before ++ whereClause dialect (some cond) ++ after) = .ok text) :
    cond.steps ≤ stepLimit := by
  by_contra deep
  rw [whereClause, Cond.written, if_pos (Nat.lt_of_not_le deep)] at wrote
  obtain ⟨_, made, _⟩ := Except.bind_ok wrote
  obtain ⟨_, ran, _⟩ := Except.map_ok made
  obtain ⟨_, _, _, most, _⟩ := mapM_append_ok ran
  obtain ⟨_, _, _, _, refused, _⟩ := mapM_append_ok most
  cases refused

/-- What is put in behind the condition of a base leaves the values of the base where they were. -/
private theorem inserts_of_pieces (base : Select) {statement : Select} {front added : List Piece}
    (pieces : statement.pieces dialect false = front ++ added ++ base.rear dialect) (carries : Carries added values)
    (same : SameValues front (base.lead dialect ++ whereClause dialect base.filter)) :
    ∃ later, Inserts dialect base statement values later front added (base.rear dialect) := by
  obtain ⟨names, split⟩ := valuesFrom_split [] front
  have own : boundValues (base.pieces dialect false) = valuesFrom [] (front ++ base.rear dialect) := by
    rw [pieces_parts, boundValues, same]
  refine ⟨valuesFrom names (base.rear dialect), pieces, carries, ?_, own.trans (split _), ?_⟩
  · have all := same [] []
    rwa [List.append_nil, List.append_nil, ← pieces_upToFilter] at all
  · rw [pieces, boundValues, List.append_assoc, split, carries.values, List.append_assoc]
    rfl

private theorem inserts_nothing (dialect : Dialect) (base : Select) :
    ∃ later front added back, Inserts dialect base base [] later front added back := by
  obtain ⟨later, inserts⟩ := inserts_of_pieces base (by rw [pieces_parts, List.append_nil]) Carries.nil
    (.refl (base.lead dialect ++ whereClause dialect base.filter))
  exact ⟨later, _, _, _, inserts⟩

private theorem inserts_condition (binds : cond.Binds values) {statement : Select} {text : String}
    (added : statement = { base with filter := Clause.filter? base.filter (some (.cond cond)) })
    (wrote : statement.placeholderSql dialect = .ok text) :
    ∃ later front added back, Inserts dialect base statement values later front added back := by
  have parts := statement.pieces_parts dialect
  have ends : statement.lead dialect = base.lead dialect ∧ statement.rear dialect = base.rear dialect := by
    rw [added]
    exact ⟨rfl, rfl⟩
  rw [ends.1, ends.2] at parts
  rw [placeholderSql, parts] at wrote
  cases own : base.filter with
  | none =>
    have alone : statement.filter = some cond := by rw [added, own]; rfl
    rw [alone] at parts wrote
    rw [whereClause_shallow (shallow_of_written wrote)] at parts
    obtain ⟨later, inserts⟩ := inserts_of_pieces base parts (binds.carries.text " \nWHERE ") <| by
      rw [own, whereClause, List.append_nil]
      exact .refl _
    exact ⟨later, _, _, _, inserts⟩
  | some first =>
    have both : statement.filter = some (.joined .and [first.shield .and, cond.shield .and]) := by
      rw [added, own]; rfl
    rw [both] at parts wrote
    have shallow := shallow_of_written wrote
    have within : first.steps ≤ stepLimit := by
      have less := first.steps_shield .and
      simp only [Cond.steps, Cond.mostSteps] at shallow
      omega
    have terms : (Cond.joined .and [first.shield .and, cond.shield .and]).pieces dialect =
        (first.shield .and).pieces dialect ++ .text " AND " :: (cond.shield .and).pieces dialect := by
      rw [Cond.pieces]
      rfl
    rw [whereClause_shallow shallow, terms, ← List.cons_append, ← List.append_assoc] at parts
    obtain ⟨later, inserts⟩ := inserts_of_pieces base parts ((binds.shield .and).carries.text " AND ") <| by
      rw [own, whereClause_shallow within]
      exact ((first.shield_values .and).behind [.text " \nWHERE "]).behind _
    exact ⟨later, _, _, _, inserts⟩

/-- A condition that is added to a base, if there is one, is put in behind that of the base. -/
theorem inserts_filter {found : Option Cond} (binds : Cond.AllBind found.toList values) {statement : Select}
    {text : String} (added : statement = { base with filter := Clause.filter? base.filter (found.map .cond) })
    (wrote : statement.placeholderSql dialect = .ok text) :
    ∃ later front added back, Inserts dialect base statement values later front added back := by
  cases found with
  | none =>
    cases binds
    have same : statement = base := by
      rw [added]
      cases base
      rfl
    rw [same]
    exact inserts_nothing dialect base
  | some cond =>
    cases binds with
    | cons head tail =>
      cases tail
      rw [List.append_nil]
      exact inserts_condition head added wrote

end Select

end DataGrid.Sql
