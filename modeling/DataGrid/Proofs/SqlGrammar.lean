import Mathlib.Data.List.Forall2
import DataGrid.Proofs.Truth

/-! The grammar of a WHERE clause over its operands: parentheses, and `AND` that binds tighter than `OR`.
A list of tokens has at most one value, which a reader with a stack of open parentheses finds. -/

namespace DataGrid.Sql

inductive Token (α : Type) where
  | opening | closing
  | word (junction : Junction)
  | operand (content : α)
  deriving DecidableEq, Repr

def Token.map {α β : Type} (f : α → β) : Token α → Token β
  | .opening => .opening
  | .closing => .closing
  | .word junction => .word junction
  | .operand content => .operand (f content)

inductive Rank where
  | operand | conjunction | disjunction
  deriving DecidableEq, Repr

variable {α β : Type}

/-- The tokens read, at a rank, as a condition of the given value. -/
inductive Reads (value : α → Truth) : Rank → List (Token α) → Truth → Prop where
  | operand (content : α) : Reads value .operand [.operand content] (value content)
  | enclosed {tokens result} (inner : Reads value .disjunction tokens result) :
      Reads value .operand (.opening :: tokens ++ [.closing]) result
  | conjunction {tokens result} (single : Reads value .operand tokens result) :
      Reads value .conjunction tokens result
  | and {first rest left right} (head : Reads value .operand first left) (tail : Reads value .conjunction rest right) :
      Reads value .conjunction (first ++ .word .and :: rest) (left.and right)
  | disjunction {tokens result} (single : Reads value .conjunction tokens result) :
      Reads value .disjunction tokens result
  | or {first rest left right} (head : Reads value .conjunction first left)
      (tail : Reads value .disjunction rest right) :
      Reads value .disjunction (first ++ .word .or :: rest) (left.or right)

/-- Whether tokens are a condition of the rank, whatever the values of their operands. -/
def Parses (rank : Rank) (tokens : List (Token α)) : Prop :=
  ∀ value : α → Truth, ∃ result, Reads value rank tokens result

theorem Reads.parses {value : α → Truth} {rank tokens result} (reads : Reads value rank tokens result) :
    Parses rank tokens := by
  intro other
  induction reads with
  | operand content => exact ⟨_, .operand content⟩
  | enclosed _ ih =>
    obtain ⟨result, inner⟩ := ih
    exact ⟨result, .enclosed inner⟩
  | conjunction _ ih =>
    obtain ⟨result, single⟩ := ih
    exact ⟨result, .conjunction single⟩
  | and _ _ first rest =>
    obtain ⟨left, head⟩ := first
    obtain ⟨right, tail⟩ := rest
    exact ⟨_, .and head tail⟩
  | disjunction _ ih =>
    obtain ⟨result, single⟩ := ih
    exact ⟨result, .disjunction single⟩
  | or _ _ first rest =>
    obtain ⟨left, head⟩ := first
    obtain ⟨right, tail⟩ := rest
    exact ⟨_, .or head tail⟩

theorem Reads.loosen {value : α → Truth} {tokens result} (reads : Reads value .operand tokens result) (rank : Rank) :
    Reads value rank tokens result := by
  cases rank with
  | operand => exact reads
  | conjunction => exact .conjunction reads
  | disjunction => exact .disjunction (.conjunction reads)

theorem Reads.toDisjunction {value : α → Truth} {rank tokens result} (reads : Reads value rank tokens result) :
    Reads value .disjunction tokens result := by
  cases rank with
  | operand => exact .disjunction (.conjunction reads)
  | conjunction => exact .disjunction reads
  | disjunction => exact reads

def Junction.rank : Junction → Rank
  | .and => .conjunction
  | .or => .disjunction

private theorem Reads.and_append {value : α → Truth} {rank first second left right}
    (head : Reads value rank first left) (tail : Reads value .conjunction second right) (same : rank = .conjunction) :
    Reads value .conjunction (first ++ .word .and :: second) (left.and right) := by
  induction head with
  | conjunction single => exact .and single tail
  | and single _ _ ih => simpa [Truth.and_assoc] using Reads.and single (ih same)
  | operand | enclosed | disjunction | or => cases same

private theorem Reads.or_append {value : α → Truth} {rank first second left right}
    (head : Reads value rank first left) (tail : Reads value .disjunction second right) (same : rank = .disjunction) :
    Reads value .disjunction (first ++ .word .or :: second) (left.or right) := by
  induction head with
  | disjunction single => exact .or single tail
  | or single _ _ ih => simpa [Truth.or_assoc] using Reads.or single (ih same)
  | operand | enclosed | conjunction | and => cases same

theorem Reads.append {value : α → Truth} (junction : Junction) {first second left right}
    (head : Reads value junction.rank first left) (tail : Reads value junction.rank second right) :
    Reads value junction.rank (first ++ .word junction :: second) (.combine junction left right) := by
  cases junction with
  | and => exact head.and_append tail rfl
  | or => exact head.or_append tail rfl

/-- Lists of tokens with a junction between them read as the junction of their values. -/
theorem Reads.intercalate {value : α → Truth} (junction : Junction) {lists : List (List (Token α))}
    {values : List Truth} (each : List.Forall₂ (Reads value junction.rank) lists values) (some : lists ≠ []) :
    Reads value junction.rank ([Token.word junction].intercalate lists) (.join junction values) := by
  induction each with
  | nil => exact absurd rfl some
  | @cons first value rest values head tail ih =>
    cases rest with
    | nil =>
      cases tail
      simpa using head
    | cons second more => simpa [List.intercalate_cons_cons] using head.append junction (ih (by simp))

theorem Reads.all_yes {value : α → Truth} {rank tokens result} (reads : Reads value rank tokens result)
    (true_of : ∀ content, value content = .yes) : result = .yes := by
  induction reads with
  | operand content => exact true_of content
  | enclosed _ ih | conjunction _ ih | disjunction _ ih => exact ih
  | and _ _ first rest => rw [first, rest]; rfl
  | or _ _ first _ => rw [first]; rfl

theorem Reads.map {value : β → Truth} {f : α → β} {rank tokens result}
    (reads : Reads (fun content => value (f content)) rank tokens result) :
    Reads value rank (tokens.map (Token.map f)) result := by
  induction reads with
  | operand content => exact .operand (f content)
  | enclosed _ ih => simpa [Token.map] using Reads.enclosed ih
  | conjunction _ ih => exact .conjunction ih
  | and _ _ first rest => simpa [Token.map] using Reads.and first rest
  | disjunction _ ih => exact .disjunction ih
  | or _ _ first rest => simpa [Token.map] using Reads.or first rest

section Reader
variable (value : α → Truth)

mutual

/-- Reads an operand. `outer` holds, for each open parenthesis, the alternatives and the conjunction that
were under way before it. -/
def readOperand (outer : List (Truth × Truth)) (before current : Truth) : List (Token α) → Option Truth
  | .operand content :: rest => readWord outer before (current.and (value content)) rest
  | .opening :: rest => readOperand ((before, current) :: outer) .no .yes rest
  | _ => none

def readWord (outer : List (Truth × Truth)) (before current : Truth) : List (Token α) → Option Truth
  | [] =>
    match outer with
    | [] => some (before.or current)
    | _ => none
  | .word .and :: rest => readOperand outer before current rest
  | .word .or :: rest => readOperand outer (before.or current) .yes rest
  | .closing :: rest =>
    match outer with
    | (earlier, pending) :: more => readWord more earlier (pending.and (before.or current)) rest
    | [] => none
  | _ => none

end

/-- The value of tokens, none when they are no condition. -/
def read? (tokens : List (Token α)) : Option Truth := readOperand value [] .no .yes tokens

/-- What the reader does with tokens of a rank that stand before others. -/
private def Consumed (tokens : List (Token α)) (result : Truth) : Rank → Prop
  | .disjunction => ∃ before current, before.or current = result ∧ ∀ outer earlier rest,
      readOperand value outer earlier .yes (tokens ++ rest) = readWord value outer (earlier.or before) current rest
  | _ => ∀ outer earlier pending rest,
      readOperand value outer earlier pending (tokens ++ rest) = readWord value outer earlier (pending.and result) rest

private theorem Reads.consumed {rank tokens result} (reads : Reads value rank tokens result) :
    Consumed value tokens result rank := by
  induction reads with
  | operand content =>
    intro outer earlier pending rest
    rfl
  | enclosed _ ih =>
    intro outer earlier pending rest
    obtain ⟨before, current, rfl, step⟩ := ih
    simp only [List.cons_append, List.append_assoc, List.nil_append, readOperand, step, Truth.no_or, readWord]
  | conjunction _ ih => exact ih
  | and _ _ first second =>
    intro outer earlier pending rest
    simp only [List.append_assoc, List.cons_append, first _ _ _ _, readWord, second _ _ _ _, Truth.and_assoc]
  | @disjunction _ result _ ih =>
    refine ⟨.no, result, Truth.no_or result, ?_⟩
    intro outer earlier rest
    simp only [ih _ _ _ _, Truth.yes_and, Truth.or_no]
  | @or _ _ left _ _ _ first second =>
    obtain ⟨before, current, rfl, step⟩ := second
    refine ⟨left.or before, current, Truth.or_assoc left before current, ?_⟩
    intro outer earlier rest
    simp only [List.append_assoc, List.cons_append, first _ _ _ _, readWord, step, Truth.yes_and, Truth.or_assoc]

theorem Reads.read? {tokens result} (reads : Reads value .disjunction tokens result) :
    read? value tokens = some result := by
  obtain ⟨before, current, rfl, step⟩ := reads.consumed
  have done := step [] .no []
  rwa [List.append_nil, Truth.no_or] at done

/-- No tokens read as conditions of two values. -/
theorem Reads.unique {tokens first second} (one : Reads value .disjunction tokens first)
    (other : Reads value .disjunction tokens second) : first = second :=
  Option.some.inj ((one.read?).symm.trans other.read?)

end Reader

/-- Whether an `or` stands outside of all parentheses that follow `depth` open ones. -/
def openOr (depth : Nat) : List (Token α) → Bool
  | [] => false
  | .opening :: rest => openOr (depth + 1) rest
  | .closing :: rest => openOr (depth - 1) rest
  | .word .or :: rest => depth == 0 || openOr depth rest
  | _ :: rest => openOr depth rest

private theorem openOr_inside {value : α → Truth} {rank tokens result} (reads : Reads value rank tokens result)
    (depth : Nat) (rest : List (Token α)) : openOr (depth + 1) (tokens ++ rest) = openOr (depth + 1) rest := by
  induction reads generalizing depth rest with
  | operand content => rfl
  | enclosed _ ih => simp only [List.cons_append, List.append_assoc, openOr, ih, Nat.add_sub_cancel, List.nil_append]
  | conjunction _ ih | disjunction _ ih => exact ih depth rest
  | and _ _ first second => simp [List.append_assoc, openOr, first, second]
  | or _ _ first second => simp [List.append_assoc, openOr, first, second]

private theorem openOr_operand {value : α → Truth} {tokens result} (reads : Reads value .operand tokens result)
    (rest : List (Token α)) : openOr 0 (tokens ++ rest) = openOr 0 rest := by
  cases reads with
  | operand content => rfl
  | enclosed inner =>
    simp only [List.cons_append, List.append_assoc, openOr, openOr_inside inner, Nat.add_sub_cancel, List.nil_append]

private theorem openOr_conjunction {value : α → Truth} {rank tokens result} (reads : Reads value rank tokens result)
    (conjunction : rank = .conjunction) (rest : List (Token α)) : openOr 0 (tokens ++ rest) = openOr 0 rest := by
  induction reads with
  | conjunction single => exact openOr_operand single rest
  | and head tail _ ih => simp [List.append_assoc, openOr_operand head, openOr, ih conjunction]
  | operand | enclosed | disjunction | or => cases conjunction

/-- A condition with no open `or` is a conjunction. -/
theorem Parses.conjunction {tokens : List (Token α)} (parses : Parses .disjunction tokens)
    (shut : openOr 0 tokens = false) : Parses .conjunction tokens := by
  obtain ⟨result, reads⟩ := parses fun _ => .unknown
  cases reads with
  | disjunction single => exact single.parses
  | or head tail => simp [openOr_conjunction head rfl, openOr] at shut

/-- A condition with an open `or` is split there. -/
theorem Parses.split {tokens : List (Token α)} (parses : Parses .disjunction tokens)
    (opened : openOr 0 tokens = true) : ∃ first rest, tokens = first ++ .word .or :: rest ∧
      Parses .conjunction first ∧ Parses .disjunction rest := by
  obtain ⟨result, reads⟩ := parses fun _ => .unknown
  cases reads with
  | disjunction single =>
    have shut := openOr_conjunction single rfl []
    rw [List.append_nil, opened] at shut
    cases shut
  | @or first rest _ _ head tail => exact ⟨first, rest, rfl, head.parses, tail.parses⟩

end DataGrid.Sql
