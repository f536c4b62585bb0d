import DataGrid.Proofs.RowScope

/-! Conditions look at nothing but the tables that they name. Scopes that show the same rows of these give a condition
the same value; what else stands in them is not seen, and subqueries hide what they bring in themselves. -/

namespace DataGrid

open Sql

namespace Contents

variable {Cell : Type} {contents : Contents Cell} {reader : Reader} {adapter : Adapter}

/-- Whether two scopes show the same row of each of some tables. -/
def Agree (adapter : Adapter) (tables : List String) (first second : List (Frame Cell)) : Prop :=
  ∀ table ∈ tables, ∃ row, rowOf? adapter first (adapter.quoteIdentifier table) = some row ∧
    rowOf? adapter second (adapter.quoteIdentifier table) = some row

variable {tables : List String} {first second : List (Frame Cell)}

theorem rowOf?_or (frames scope : List (Frame Cell)) (spelled : String) :
    rowOf? adapter (frames ++ scope) spelled = (rowOf? adapter frames spelled).or (rowOf? adapter scope spelled) := by
  rw [rowOf?, List.find?_append, Option.map_or, rowOf?, rowOf?]

theorem rowOf?_isSome (adapter : Adapter) {frames : List (Frame Cell)} {table : String}
    (member : table ∈ frames.map Frame.table) :
    ∃ row, rowOf? adapter frames (adapter.quoteIdentifier table) = some row := by
  obtain ⟨frame, present, rfl⟩ := List.mem_map.mp member
  rw [← Option.isSome_iff_exists, rowOf?, Option.isSome_map, List.find?_isSome]
  exact ⟨frame, present, beq_self_eq_true _⟩

/-- Scopes that agree do so behind the same rows, whose tables they show as well. -/
theorem Agree.append (agree : Agree adapter tables first second) (frames : List (Frame Cell)) :
    Agree adapter (frames.map Frame.table ++ tables) (frames ++ first) (frames ++ second) := by
  intro table member
  simp only [rowOf?_or]
  cases found : rowOf? adapter frames (adapter.quoteIdentifier table) with
  | some row => exact ⟨row, rfl, rfl⟩
  | none =>
    rcases List.mem_append.mp member with own | other
    · obtain ⟨row, there⟩ := rowOf?_isSome adapter own
      rw [there] at found
      cases found
    · exact agree table other

/-- A scope agrees with one that has rows of other tables in front. -/
theorem agree_behind {frames scope : List (Frame Cell)} (separates : adapter.dialect.Separates)
    (shown : ∀ table ∈ tables, table ∈ scope.map Frame.table) (apart : ∀ frame ∈ frames, frame.table ∉ tables) :
    Agree adapter tables (frames ++ scope) scope := by
  intro table member
  obtain ⟨row, there⟩ := rowOf?_isSome adapter (shown table member)
  refine ⟨row, (rowOf?_append fun frame beside same => ?_).trans there, there⟩
  exact apart frame beside (Dialect.identifier_injective separates same ▸ member)

theorem Agree.cell {expression : Expr} (agree : Agree adapter tables first second)
    (names : expression.NamesOnly adapter tables) :
    contents.cell adapter first expression = contents.cell adapter second expression := by
  obtain ⟨table, member, owner⟩ := names
  obtain ⟨row, one, other⟩ := agree table member
  rw [cell_owned owner one, cell_owned owner other]

theorem Agree.truth {test : Atom} (agree : Agree adapter tables first second) (names : test.NamesOnly adapter tables) :
    contents.truth (contents.cell adapter first) test = contents.truth (contents.cell adapter second) test := by
  cases test with
  | truth flag => rfl
  | fragment content => exact names.elim
  | sameColumn left right => rw [Contents.truth, Contents.truth, agree.cell names.1, agree.cell names.2]
  | _ => simp only [Contents.truth, agree.cell names]

theorem brought_tables {scope frames : List (Frame Cell)} {rows : Rows}
    (brought : frames ∈ contents.brought adapter scope rows) : frames.map Frame.table = rows.tables := by
  cases rows with
  | table name =>
    obtain ⟨row, _, rfl⟩ := List.mem_map.mp brought
    rfl
  | joined name other left right =>
    obtain ⟨pair, _, rfl⟩ := List.mem_map.mp (List.mem_filter.mp brought).1
    rfl

theorem Agree.brought {rows : Rows} (agree : Agree adapter tables first second)
    (names : rows.NamesOnly adapter (rows.tables ++ tables)) :
    contents.brought adapter first rows = contents.brought adapter second rows := by
  cases rows with
  | table name => rfl
  | joined name other left right =>
    refine List.filter_congr fun frames member => ?_
    obtain ⟨⟨row, between⟩, _, rfl⟩ := List.mem_map.mp member
    have inside : Atom.NamesOnly adapter ([name, other] ++ tables) (.sameColumn left right) := names
    rw [(agree.append [⟨name, row⟩, ⟨other, between⟩]).truth inside]

private theorem Agree.atom {test : Atom} (agree : Agree adapter tables first second)
    (names : test.NamesOnly adapter tables) :
    (test.tokens reader).map (Token.map (contents.assignment reader adapter first).value) =
      (test.tokens reader).map (Token.map (contents.assignment reader adapter second).value) := by
  have same (other : Atom) (names : other.NamesOnly adapter tables) :
      (contents.assignment reader adapter first).predicate (.test other) =
        (contents.assignment reader adapter second).predicate (.test other) := agree.truth names
  cases test with
  | truth flag => rfl
  | fragment content => exact names.elim
  | member left values negated =>
    cases values with
    | nil =>
      have empty := same (.member left [] negated) names
      have null (negated : Bool) := same (.member left [.null] negated) names
      cases listed : reader.dialect.emptyList <;> cases negated <;>
        simp [Atom.tokens, listed, Token.map, Assignment.value, empty, null]
    | cons value rest => simp [Atom.tokens, Token.map, Assignment.value, same _ names]
  | _ => simp [Atom.tokens, Token.map, Assignment.value, same _ names]

mutual

theorem Agree.valued {tables : List String} {first second : List (Frame Cell)} {cond : Cond}
    (agree : Agree adapter tables first second) (names : cond.NamesOnly adapter tables) :
    contents.valued reader adapter first cond = contents.valued reader adapter second cond := by
  match cond with
  | .atom test =>
    have same : (test.tokens reader).map (Token.map (contents.assignment reader adapter first).value) = _ :=
      agree.atom names
    rw [valued_eq, valued_eq]
    simpa [Cond.tokens, Cond.outline, Token.expand, Predicate.tokens] using same
  | .exists rows inner =>
    have any : ((contents.brought adapter first rows).any fun frames =>
          read? id (contents.valued reader adapter (frames ++ first) inner) == some .yes) =
        (contents.brought adapter second rows).any fun frames =>
          read? id (contents.valued reader adapter (frames ++ second) inner) == some .yes := by
      rw [Bool.eq_iff_iff, List.any_eq_true, List.any_eq_true, agree.brought names.1]
      refine exists_congr fun frames => and_congr_right fun member => ?_
      have behind := agree.append frames
      rw [brought_tables member] at behind
      rw [Agree.valued behind names.2]
    rw [Contents.valued, Contents.valued, any]
  | .group inner =>
    have inside : inner.NamesOnly adapter tables := names
    rw [Contents.valued, Contents.valued, Agree.valued agree inside]
  | .joined junction terms =>
    have inside : Cond.AllNameOnly adapter tables terms := names
    rw [Contents.valued, Contents.valued, Agree.allValued agree inside]

theorem Agree.allValued {tables : List String} {first second : List (Frame Cell)} {conds : List Cond}
    (agree : Agree adapter tables first second)
    (names : Cond.AllNameOnly adapter tables conds) :
    contents.allValued reader adapter first conds = contents.allValued reader adapter second conds := by
  match conds with
  | [] => rfl
  | cond :: rest =>
    rw [Contents.allValued, Contents.allValued, Agree.valued agree names.1, Agree.allValued agree names.2]

end

theorem Agree.related {rows : Rows} {inner : Cond} (agree : Agree adapter tables first second)
    (names : (Cond.exists rows inner).NamesOnly adapter tables) :
    (contents.assignment reader adapter first).predicate (.related rows inner) =
      (contents.assignment reader adapter second).predicate (.related rows inner) := by
  have same : contents.valued reader adapter first (.exists rows inner) = _ := agree.valued names
  rw [Contents.valued, Contents.valued, List.singleton_inj, Token.operand.injEq] at same
  exact same

mutual

theorem Agree.value {cond : Cond} (agree : Agree adapter tables first second) (names : cond.NamesOnly adapter tables) :
    cond.value reader (contents.assignment reader adapter first) =
      cond.value reader (contents.assignment reader adapter second) := by
  match cond with
  | .atom test =>
    have read (scope : List (Frame Cell)) : (Cond.atom test).value reader (contents.assignment reader adapter scope) =
        (read? id ((test.tokens reader).map (Token.map (contents.assignment reader adapter scope).value))).getD
          .unknown := by
      rw [read?_map]
      rfl
    rw [read, read, agree.atom names]
  | .exists rows inner => rw [value_exists, value_exists, agree.related names]
  | .group inner =>
    have inside : inner.NamesOnly adapter tables := names
    rw [Cond.value_group, Cond.value_group, Agree.value agree inside]
  | .joined junction terms =>
    have inside : Cond.AllNameOnly adapter tables terms := names
    rw [Cond.value, Cond.value, Agree.values agree inside]

theorem Agree.values {conds : List Cond} (agree : Agree adapter tables first second)
    (names : Cond.AllNameOnly adapter tables conds) :
    Cond.values reader (contents.assignment reader adapter first) conds =
      Cond.values reader (contents.assignment reader adapter second) conds := by
  match conds with
  | [] => rfl
  | cond :: rest => rw [Cond.values, Cond.values, Agree.value agree names.1, Agree.values agree names.2]

end

end Contents

section Trees
variable {Cell : Type} {contents : Contents Cell} {reader : Reader} {adapter : Adapter} {tables : List String}
  {first second : List (Frame Cell)}

mutual

/-- What a tree asks for has the same value in scopes that agree on the tables that it names. -/
theorem PredicateTree.value_agree (agree : Contents.Agree adapter tables first second) {tree : PredicateTree}
    (names : tree.Each (·.NamesOnly adapter tables)) :
    tree.value? reader (contents.assignment reader adapter first) =
      tree.value? reader (contents.assignment reader adapter second) := by
  match tree with
  | .cond condition =>
    have own : condition.NamesOnly adapter tables := names
    rw [PredicateTree.value?, PredicateTree.value?, agree.value own]
  | .settled flag => rfl
  | .group entries =>
    have inside : Forest.Each (·.NamesOnly adapter tables) entries := names
    rw [PredicateTree.value?, PredicateTree.value?, Forest.values_agree agree inside]

theorem Forest.values_agree (agree : Contents.Agree adapter tables first second) {forest : Forest}
    (names : forest.Each (·.NamesOnly adapter tables)) :
    forest.values reader (contents.assignment reader adapter first) =
      forest.values reader (contents.assignment reader adapter second) := by
  match forest with
  | [] => rfl
  | (junction, tree) :: rest =>
    rw [Forest.values, Forest.values, PredicateTree.value_agree agree names.1, Forest.values_agree agree names.2]

end

end Trees

end DataGrid
