import DataGrid.Proofs.FilterMeaning
import DataGrid.Proofs.QueryGrowth

/-! Equality and inequality of a column with a value of any kind, as a group is asked for them. With a value that is
not null they oppose each other in every row where the column is not null, and both are unknown in the others. With
null, equality asks whether the column is null, while inequality stays a comparison, which no row passes. -/

namespace DataGrid

open Sql

namespace Sql.Comparison

/-- The texts that stand for a comparison, in lower case and without the blanks around them. -/
def words : Comparison → List String
  | .unequal => ["<>", "!="]
  | .like => ["like"]
  | .notLike => ["not like"]
  | operator => [operator.sign]

theorem ofText?_iff {word : String} {operator : Comparison} :
    ofText? word = some operator ↔ String.ofList (Text.lower (Text.trim word.toList)) ∈ operator.words := by
  constructor
  · intro named
    unfold ofText? at named
    split at named <;> cases named <;> simp [words, sign, *]
  · intro member
    unfold ofText?
    cases operator <;> simp only [words, sign, List.mem_cons, List.not_mem_nil, or_false] at member
    case unequal => rcases member with same | same <;> (rw [same]; rfl)
    all_goals
      rw [member]
      rfl

end Sql.Comparison

/-- One of two tests is true and the other one false. -/
def Sql.Truth.Opposite (first second : Truth) : Prop :=
  (first = .yes ∧ second = .no) ∨ (first = .no ∧ second = .yes)

theorem Sql.Truth.opposite_not (flag : Bool) : Truth.Opposite (.ofBool flag) (.ofBool !flag) := by
  cases flag with
  | true => exact .inl ⟨rfl, rfl⟩
  | false => exact .inr ⟨rfl, rfl⟩

theorem Value.isNull_iff {value : Value} : value.isNull = true ↔ value = .null := by
  cases value <;> simp [Value.isNull]

namespace RowView

variable {row : RowView} {left right : Value} {column : Expr} {value : Value}

/-- A database finds two values unequal when it does not find them equal. -/
def Opposed (row : RowView) : Prop := ∀ left right, row.holds .unequal left right = !row.holds .equal left right

theorem compare_null_left (operator : Comparison) (right : Value) : row.compare operator .null right = .unknown := rfl

theorem compare_null_right (operator : Comparison) (left : Value) : row.compare operator left .null = .unknown := by
  simp [compare, Value.isNull]

theorem compare_present {operator : Comparison} (first : left ≠ .null) (second : right ≠ .null) :
    row.compare operator left right = .ofBool (row.holds operator left right) := by
  have known : (left.isNull || right.isNull) = false := by
    rw [Bool.or_eq_false_iff, ← Bool.not_eq_true, ← Bool.not_eq_true, Value.isNull_iff, Value.isNull_iff]
    exact ⟨first, second⟩
  rw [compare, known, if_neg Bool.false_ne_true]

theorem Opposed.compare (opposed : row.Opposed) (first : left ≠ .null) (second : right ≠ .null) :
    Truth.Opposite (row.compare .equal left right) (row.compare .unequal left right) := by
  rw [compare_present first second, compare_present first second, opposed]
  exact Truth.opposite_not _

end RowView

section Tests

variable {row : RowView} {column : Expr} {value : Value}

/-- Equality can be asked of every value; with null it asks whether the column is null. -/
theorem equal_asks (column : Expr) (value : Value) :
    ∃ test, Sql.compare column .equal value = .ok test ∧ ∀ row : RowView,
      (value ≠ .null → row.test test = row.compare .equal (row.value column) value) ∧
      (value = .null → row.test test = .ofBool (row.value column).isNull) := by
  cases value with
  | null => exact ⟨_, rfl, fun row => ⟨fun present => absurd rfl present, fun _ => by simp [RowView.test]⟩⟩
  | _ => exact ⟨_, rfl, fun row => ⟨fun _ => rfl, fun same => by cases same⟩⟩

theorem unequal_made (column : Expr) (value : Value) :
    Sql.compare column .unequal value = .ok (.compare column .unequal value) := by
  cases value <;> rfl

end Tests

namespace Sql.Adapter

variable {adapter : Adapter} {argument : Argument} {column : Expr} {value : Value} {test : Atom}

theorem comparisonOf_ok {word : String} {operator : Comparison} (names : adapter.expression? argument = some column)
    (named : Comparison.ofText? word = some operator) (made : compare column operator value = .ok test) :
    adapter.comparisonOf argument (.text word) value = .ok (.cond (.atom test)) := by
  simp only [comparisonOf, Value.toComparison, named, names, Except.ok_bind, made]
  rfl

theorem nullOf_ok (names : adapter.expression? argument = some column) (negated : Bool) :
    adapter.nullOf argument negated = .ok (.cond (.atom (.isNull column negated))) := by
  simp only [nullOf, testOf, names, Except.ok_bind]
  rfl

/-- What equality and inequality with a value ask of a row, and what the test for a column that is not null asks. -/
theorem equality_opposes {same other : String} (names : adapter.expression? argument = some column)
    (equality : Comparison.ofText? same = some .equal) (inequality : Comparison.ofText? other = some .unequal)
    (value : Value) :
    ∃ equal unequal held,
      adapter.comparisonOf argument (.text same) value = .ok (.cond (.atom equal)) ∧
      adapter.comparisonOf argument (.text other) value = .ok (.cond (.atom unequal)) ∧
      adapter.nullOf argument true = .ok (.cond (.atom held)) ∧
      ∀ row : RowView, row.Opposed →
        (value ≠ .null → row.value column ≠ .null → Truth.Opposite (row.test equal) (row.test unequal)) ∧
        (value ≠ .null → row.value column = .null → row.test equal = .unknown ∧ row.test unequal = .unknown) ∧
        (value = .null → row.test equal = .ofBool (row.value column).isNull ∧ row.test unequal = .unknown ∧
          row.test held = .ofBool !(row.value column).isNull) := by
  obtain ⟨equal, made, asks⟩ := equal_asks column value
  refine ⟨equal, .compare column .unequal value, .isNull column true, comparisonOf_ok names equality made,
    comparisonOf_ok names inequality (unequal_made column value), nullOf_ok names true, ?_⟩
  intro row opposed
  have unequal : row.test (.compare column .unequal value) = row.compare .unequal (row.value column) value := rfl
  rw [unequal]
  refine ⟨?_, ?_, ?_⟩
  · intro present held
    rw [(asks row).1 present]
    exact opposed.compare held present
  · intro present null
    rw [(asks row).1 present, null]
    exact ⟨rfl, rfl⟩
  · rintro rfl
    refine ⟨(asks row).2 rfl, row.compare_null_right .unequal _, ?_⟩
    simp [RowView.test]

private def ages (row : Value) : RowView where
  value _ := row
  holds
    | .equal, .int left, .int right => left == right
    | .unequal, .int left, .int right => left != right
    | .unequal, _, _ => true
    | _, _, _ => false

private theorem ages_opposed (value : Value) : (ages value).Opposed := by
  intro left right
  cases left <;> cases right <;> rfl

theorem equality_opposes_ages :
    (ages (.int 4)).Opposed ∧
      Truth.Opposite ((ages (.int 4)).test (.compare (.literal "age") .equal (.int 3)))
        ((ages (.int 4)).test (.compare (.literal "age") .unequal (.int 3))) ∧
      (ages (.int 4)).test (.compare (.literal "age") .unequal .null) = .unknown ∧
      (ages (.int 4)).test (.isNull (.literal "age") true) = .yes := by
  have names : (Adapter.ofDialect .standard false).expression? (.value (.text "age")) = some (.literal "age") := by
    decide
  have spaced : Comparison.ofText? " = " = some .equal := by decide
  have other : Comparison.ofText? "!=" = some .unequal := by decide
  refine ⟨ages_opposed _, ?_, ?_⟩
  · obtain ⟨equal, unequal, held, made, opposed, _, asks⟩ := equality_opposes names spaced other (.int 3)
    cases made
    cases opposed
    exact (asks (ages (.int 4)) (ages_opposed _)).1 nofun nofun
  · obtain ⟨equal, unequal, held, made, opposed, asked, asks⟩ := equality_opposes names spaced other .null
    cases made
    cases opposed
    cases asked
    exact ((asks (ages (.int 4)) (ages_opposed _)).2.2 rfl).2

end Sql.Adapter

namespace Query

variable {base : Select} {dialect : Dialect} {oracle : Bool} {argument : Argument} {word : String} {value : Value}
  {test : Atom} {reader : Reader} {row : RowView} {after : Query} {answer : Value} {filter : Option Cond}

/-- A fresh query that is asked for one comparison returns the rows of its base for which the comparison is true. -/
theorem call_compare_accepts (safe : ∀ condition ∈ base.filter, condition.Safe reader) (filters : test.FilterTest)
    (made : (ofSelect base dialect oracle).adapter.comparisonOf argument (.text word) value = .ok (.cond (.atom test)))
    (called : (ofSelect base dialect oracle).call .compare [argument, .value (.text word), .value value] =
      .ok (answer, after))
    (read : after.condition = .ok filter) :
    Accepts reader row.assignment filter ↔ Accepts reader row.assignment base.filter ∧ row.test test = .yes := by
  have formed := formed_ofSelect base dialect oracle
  have single : Forest.Each (Cond.Safe reader) [(.and, .cond (.atom test))] := ⟨filters.structured.safe reader, trivial⟩
  obtain ⟨forest, added, grown⟩ := call_grows formed called
  have asked : QueryMethod.additions .compare (ofSelect base dialect oracle).adapter
      [argument, .value (.text word), .value value] = .ok [(.and, .cond (.atom test))] := by
    simp only [QueryMethod.additions, GroupMethod.addition, GroupMethod.entry, List.headD, List.map,
      List.getD_cons_succ, List.getD_cons_zero, Argument.toValue, made]
    rfl
  cases asked.symm.trans added
  have unfolds := grown.store.unfolds formed.closed (.intro trivial .nil)
  rw [← grown.root] at unfolds
  rw [condition_eq read unfolds, grown.base.trans (show (ofSelect base dialect oracle).base = base from rfl),
    List.nil_append, Forest.accepts safe (single.apart fun _ held => held) fun _ => single.steady fun _ held => held]
  refine and_congr_right fun _ => ?_
  have value : Forest.value? reader row.assignment [(.and, .cond (.atom test))] = some (row.test test) := by
    have same : Cond.value reader row.assignment (.atom test) = row.test test := filters.value
    rw [← same]
    simp [Forest.value?, Forest.values, PredicateTree.value?, Truth.fold, Truth.foldFrom]
  rw [Forest.Passes, value, Option.getD_some]

end Query

end DataGrid
