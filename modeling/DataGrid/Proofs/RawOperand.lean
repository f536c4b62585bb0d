import DataGrid.Proofs.HandleCondition

/-! Raw predicates. The text of a fragment is written as it is, without parentheses around it. It therefore acts
as one operand of the groups that it is added to, and keeps within the base condition, exactly when no `OR`
stands open in it. -/

namespace DataGrid

open Sql

variable {reader : Reader} {content : Fragment}

private theorem fragment_safe (parses : Parses .disjunction (reader.cut content))
    (shut : openOr 0 (reader.cut content) = false) : (Cond.atom (.fragment content)).Safe reader := by
  have mapped {rank} (parses : Parses rank (reader.cut content)) :
      Parses rank ((Atom.fragment content).tokens reader) := by
    intro value
    obtain ⟨result, reads⟩ := parses fun sql => value (.text sql)
    exact ⟨result, reads.map⟩
  have tight : (Cond.atom (.fragment content)).Tight reader := mapped (parses.conjunction shut)
  exact ⟨mapped parses, tight.steady⟩

def onlyTexts : Assignment := ⟨fun _ => .no, fun _ => .yes⟩

/-- The test that stands beside the fragment in the examples of how it comes apart. -/
def neighbour : Cond := .atom (.isNull (.literal "tenant") false)

/-- Behind an `AND`, what follows the open `OR` of a fragment is an alternative to what stands before. -/
theorem comes_apart (parses : Parses .disjunction (reader.cut content))
    (opened : openOr 0 (reader.cut content) = true) :
    Reads onlyTexts.value .disjunction
      ((Cond.joined .and [neighbour, .atom (.fragment content)]).tokens reader) .yes := by
  obtain ⟨first, rest, cut, left, right⟩ := parses.split opened
  obtain ⟨before, head⟩ := left fun sql => onlyTexts.value (.text sql)
  obtain ⟨after, tail⟩ := right fun sql => onlyTexts.value (.text sql)
  have beforeYes := head.all_yes fun _ => rfl
  have afterYes := tail.all_yes fun _ => rfl
  subst before after
  have single : Reads onlyTexts.value .operand (neighbour.tokens reader) .no := .operand _
  have whole := Reads.or (Reads.and single (head.map (f := Operand.text))) tail.map
  have same : (Cond.joined .and [neighbour, .atom (.fragment content)]).tokens reader =
      (neighbour.tokens reader ++ .word .and :: first.map (Token.map .text)) ++
        .word .or :: rest.map (Token.map .text) := by
    have text : (Cond.atom (.fragment content)).tokens reader = (reader.cut content).map (Token.map .text) := by
      simp [Cond.tokens, Cond.outline, Token.expand, Predicate.tokens, Atom.tokens]
    rw [Cond.tokens_joined]
    simp [List.intercalate_cons_cons, text, cut, Token.map]
  rw [same]
  exact whole

theorem neighbour_safe (reader : Reader) : neighbour.Safe reader :=
  Cond.Test.safe (show neighbour.Test from trivial) reader

/-- The conditions of a group whose only raw predicate is the fragment. -/
def Beside (content : Fragment) (cond : Cond) : Prop := cond.Test ∨ cond = .atom (.fragment content)

theorem beside_safe (parses : Parses .disjunction (reader.cut content))
    (shut : openOr 0 (reader.cut content) = false) : ∀ cond, Beside content cond → cond.Safe reader := by
  rintro cond (test | rfl)
  · exact test.safe reader
  · exact fragment_safe parses shut

/-- The groups of these conditions read as they are meant to, wherever the fragment stands in them: each
condition counts as one operand, joined to its neighbours as its junction says. -/
def OperandEverywhere (reader : Reader) (content : Fragment) : Prop :=
  ∀ (store : Store) (id : GroupId) (forest : Forest) (condition : Cond), store.Unfolds (fun _ => True) id forest →
    forest.Each (Beside content) → store.clause? id = .ok (some (.cond condition)) →
    ∀ assignment result, Reads assignment.value .disjunction (condition.tokens reader) result ↔
      forest.value? reader assignment = some result

/-- The rows of a query satisfy its base condition, wherever the fragment stands below its root. -/
def BaseKept (reader : Reader) (content : Fragment) : Prop :=
  ∀ (query : Query) (forest : Forest) (filter : Option Cond),
    query.store.Unfolds (fun _ => True) query.root forest → forest.Each (Beside content) →
    (∀ base ∈ query.base.filter, base.Safe reader) → query.condition = .ok filter →
    ∀ assignment, Accepts reader assignment filter → Accepts reader assignment query.base.filter

/-- A raw predicate acts as one operand everywhere, and everywhere keeps within the base condition, exactly
when the database finds no `OR` in its text that stands outside of all parentheses. -/
theorem raw_operand_iff (reader : Reader) (content : Fragment) (parses : Parses .disjunction (reader.cut content)) :
    (OperandEverywhere reader content ↔ openOr 0 (reader.cut content) = false) ∧
      (BaseKept reader content ↔ openOr 0 (reader.cut content) = false) := by
  refine ⟨⟨?_, ?_⟩, ⟨?_, ?_⟩⟩
  · intro everywhere
    by_contra opened
    rw [Bool.not_eq_false] at opened
    let store : Store := ⟨[[(.and, .cond neighbour), (.and, .cond (.atom (.fragment content)))]]⟩
    have unfolds : store.Unfolds (fun _ => True) 0 _ := .intro trivial (.cond _ _ (.cond _ _ .nil))
    have meant := everywhere store 0 _ _ unfolds ⟨.inl trivial, .inr rfl, trivial⟩ rfl onlyTexts .yes
    cases meant.mp (comes_apart parses opened)
  · intro shut store id forest condition unfolds each read
    have found := unfolds.clause.value read
    exact (each.apart (beside_safe parses shut)).reads found.symm
  · intro kept
    by_contra opened
    rw [Bool.not_eq_false] at opened
    let base : Select := { Select.empty with filter := some neighbour }
    let query := (Query.ofSelect base .sqlite false).add .and (.atom (.fragment content))
    have unfolds : query.store.Unfolds (fun _ => True) query.root [(.and, .cond (.atom (.fragment content)))] :=
      .intro trivial (.cond _ _ .nil)
    have safe : ∀ held ∈ query.base.filter, held.Safe reader := by
      intro _ found
      cases found
      exact neighbour_safe reader
    have passed : Accepts reader onlyTexts (some (.joined .and [neighbour, .atom (.fragment content)])) := by
      intro _ found
      cases found
      exact comes_apart parses opened
    have accepted := kept query _ _ unfolds ⟨.inr rfl, trivial⟩ safe rfl onlyTexts passed
    have reads : Reads onlyTexts.value .disjunction (neighbour.tokens reader) .no :=
      (Reads.operand _).loosen .disjunction
    cases reads.unique _ (accepted neighbour rfl)
  · intro shut query forest filter unfolds each safe read assignment accepted
    have inner := beside_safe parses shut
    rw [query.condition_eq read unfolds,
      Forest.accepts safe (each.apart inner) fun _ => each.steady inner] at accepted
    exact accepted.1

/-- A database that finds the `OR` of a fragment, as each of them does. -/
theorem raw_operand_disjunction :
    let reader : Reader := ⟨.sqlite, fun _ => [.operand "a = 1", .word .or, .operand "b = 2"]⟩
    ¬ OperandEverywhere reader [.chars "a = 1 OR b = 2".toList] ∧
      ¬ BaseKept reader [.chars "a = 1 OR b = 2".toList] := by
  intro reader
  have parses : Parses .disjunction (reader.cut [.chars "a = 1 OR b = 2".toList]) := fun _ =>
    ⟨_, .or (.conjunction (.operand "a = 1")) (.disjunction (.conjunction (.operand "b = 2")))⟩
  have bounds := raw_operand_iff reader [.chars "a = 1 OR b = 2".toList] parses
  have opened : openOr 0 (reader.cut [.chars "a = 1 OR b = 2".toList]) = true := rfl
  constructor
  · intro everywhere
    cases opened.symm.trans (bounds.1.mp everywhere)
  · intro kept
    cases opened.symm.trans (bounds.2.mp kept)

end DataGrid
