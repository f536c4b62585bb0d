import DataGrid.Predicate.Method
import DataGrid.Proofs.ActionSteps
import DataGrid.Proofs.PredicateFold

/-! The conditions that the methods of a group make. All but raw text are tests of one operand, which stand
anywhere; the raw methods make a fragment. -/

namespace DataGrid

open Sql

namespace Sql

/-- A predicate of one operand, and no raw text. -/
def Cond.Test : Cond → Prop
  | .atom (.fragment _) => False
  | .atom _ => True
  | _ => False

theorem Atom.parses (reader : Reader) {test : Atom} (structured : (Cond.atom test).Test) :
    Parses .conjunction (test.tokens reader) := by
  have operand (content : Operand) : Parses .conjunction [.operand content] :=
    fun _ => ⟨_, .conjunction (.operand content)⟩
  match test with
  | .truth flag => exact operand _
  | .compare .. | .isTruth .. | .isNull .. | .sameColumn .. | .regexp .. | .regexpLike .. => exact operand _
  | .member left (_ :: _) negated => exact operand _
  | .member left [] negated =>
    intro value
    have constant (flag : Bool) : Reads value .operand [.opening, .operand (.constant flag), .closing] _ :=
      .enclosed (.disjunction (.conjunction (.operand (Operand.constant flag))))
    have single (negated : Bool) :
        Reads value .operand [.operand (.predicate (.test (.member left [.null] negated)))] _ := .operand _
    cases empty : reader.dialect.emptyList with
    | subquery =>
      simp only [Atom.tokens, empty]
      exact operand _ value
    | constants =>
      simp only [Atom.tokens, empty]
      cases negated with
      | false => exact ⟨_, .and (single false) (.conjunction (constant false))⟩
      | true =>
        have either := Reads.or (.conjunction (single true)) (.disjunction (.conjunction (constant true)))
        exact ⟨_, .conjunction (.enclosed either)⟩
  | .fragment content => exact structured.elim

/-- Whether a condition can stand anywhere, however the database reads raw text. -/
def Cond.Safe (reader : Reader) (cond : Cond) : Prop := cond.Whole reader ∧ cond.Steady reader

theorem Cond.Test.safe {cond : Cond} (structured : cond.Test) (reader : Reader) : cond.Safe reader := by
  match cond with
  | .atom test =>
    have tight : (Cond.atom test).Tight reader := Atom.parses reader structured
    refine ⟨?_, tight.steady⟩
    intro value
    obtain ⟨result, reads⟩ := tight value
    exact ⟨result, reads.toDisjunction⟩
  | .exists .. | .group _ | .joined .. => exact structured.elim

theorem compare_test {left : Expr} {operator : Comparison} {value : Value} {test : Atom}
    (made : compare left operator value = .ok test) : (Cond.atom test).Test := by
  unfold compare at made
  split at made <;> cases made <;> trivial

end Sql

/-- Whether an argument names a column or is an expression. -/
def Argument.NamesColumn : Argument → Prop
  | .expression _ => True
  | .value (.text _) => True
  | .value _ => False

def Entry.Test (entry : Entry) : Prop := ∃ condition, entry = .cond condition ∧ condition.Test

namespace Sql.Adapter

variable {adapter : Adapter} {column : Argument} {entry : Entry}

private theorem expression_some (adapter : Adapter) (named : column.NamesColumn) :
    ∃ expression, adapter.expression? column = some expression := by
  match column with
  | .expression content => exact ⟨content, rfl⟩
  | .value (.text name) => exact ⟨adapter.column name, rfl⟩

theorem comparisonOf_test {operator value : Value} (named : column.NamesColumn)
    (made : adapter.comparisonOf column operator value = .ok entry) : entry.Test := by
  obtain ⟨expression, found⟩ := expression_some adapter named
  obtain ⟨comparison, _, made⟩ := Except.bind_ok made
  rw [found] at made
  obtain ⟨test, compared, same⟩ := Except.bind_ok made
  cases same
  exact ⟨_, rfl, compare_test compared⟩

private theorem testOf_test {test : Expr → Except Error Atom} (named : column.NamesColumn)
    (structured : ∀ expression atom, test expression = .ok atom → (Cond.atom atom).Test)
    (made : adapter.testOf column test = .ok entry) : entry.Test := by
  obtain ⟨expression, found⟩ := expression_some adapter named
  rw [testOf, found] at made
  obtain ⟨atom, tested, same⟩ := Except.bind_ok made
  cases same
  exact ⟨_, rfl, structured expression atom tested⟩

theorem memberOf_test {values : Value} {negated : Bool} (named : column.NamesColumn)
    (made : adapter.memberOf column values negated = .ok entry) : entry.Test := by
  refine testOf_test named ?_ made
  intro expression atom tested
  obtain ⟨members, _, same⟩ := Except.bind_ok tested
  cases same
  trivial

theorem nullOf_test {negated : Bool} (named : column.NamesColumn)
    (made : adapter.nullOf column negated = .ok entry) : entry.Test := by
  refine testOf_test named ?_ made
  rintro expression _ ⟨⟩
  trivial

end Sql.Adapter

theorem rawOf_fragment {sql bindings : Value} {entry : Entry} (made : rawOf sql bindings = .ok entry) :
    ∃ content, fragmentOf sql bindings = .ok content ∧ entry = .cond (.atom (.fragment content)) := by
  obtain ⟨content, found, same⟩ := Except.bind_ok made
  cases same
  exact ⟨content, found, rfl⟩

namespace GroupMethod

variable {method : GroupMethod} {adapter : Adapter} {arguments : List Argument} {entry : Entry} {junction : Value}

def IsRaw (method : GroupMethod) : Prop := method = .raw ∨ method = .orRaw

private theorem counted {least most : Nat} (accepted : Argument.checkCount (least + 1) most arguments = .ok ())
    (named : ∀ column ∈ arguments.head?, column.NamesColumn) : (arguments.headD (.value .null)).NamesColumn := by
  cases arguments with
  | nil => cases accepted
  | cons column rest => exact named column rfl

theorem entry_test (structured : ¬ method.IsRaw) (named : ∀ column ∈ arguments.head?, column.NamesColumn)
    (made : method.entry adapter arguments = .ok (entry, junction)) : entry.Test := by
  cases method with
  | compare | orCompare =>
    obtain ⟨_, accepted, made⟩ := Except.bind_ok made
    obtain ⟨found, compared, same⟩ := Except.bind_ok made
    cases same
    exact Adapter.comparisonOf_test (counted accepted named) compared
  | raw => exact (structured (.inl rfl)).elim
  | orRaw => exact (structured (.inr rfl)).elim
  | member =>
    obtain ⟨_, accepted, made⟩ := Except.bind_ok made
    obtain ⟨found, tested, same⟩ := Except.bind_ok made
    cases same
    exact Adapter.memberOf_test (counted accepted named) tested
  | null | notNull =>
    obtain ⟨_, accepted, made⟩ := Except.bind_ok made
    obtain ⟨found, tested, same⟩ := Except.bind_ok made
    cases same
    exact Adapter.nullOf_test (counted accepted named) tested

theorem entry_raw (raw : method.IsRaw) (made : method.entry adapter arguments = .ok (entry, junction)) :
    ∃ content, entry = .cond (.atom (.fragment content)) := by
  rcases raw with rfl | rfl
  all_goals
    obtain ⟨_, _, made⟩ := Except.bind_ok made
    obtain ⟨found, written, same⟩ := Except.bind_ok made
    cases same
    obtain ⟨content, _, same⟩ := rawOf_fragment written
    exact ⟨content, same⟩

end GroupMethod

end DataGrid
