import DataGrid.Predicate.Store

/-! The three truth values of SQL, and the reference reading of a list of values whose junctions
stand between them. Only rows for which a condition is true are returned. -/

namespace DataGrid.Sql

inductive Truth where
  | no | unknown | yes
  deriving DecidableEq, Repr

namespace Truth

def ofBool (flag : Bool) : Truth := if flag then .yes else .no

def and : Truth → Truth → Truth
  | .no, _ => .no
  | .yes, second => second
  | .unknown, .no => .no
  | .unknown, _ => .unknown

def or : Truth → Truth → Truth
  | .yes, _ => .yes
  | .no, second => second
  | .unknown, .yes => .yes
  | .unknown, _ => .unknown

def combine : Junction → Truth → Truth → Truth
  | .and => and
  | .or => or

/-- The value that a junction leaves out. -/
def neutral : Junction → Truth
  | .and => .yes
  | .or => .no

def join (junction : Junction) (values : List Truth) : Truth :=
  values.foldr (combine junction) (neutral junction)

@[simp] theorem and_yes (value : Truth) : value.and .yes = value := by cases value <;> rfl

@[simp] theorem yes_and (value : Truth) : Truth.yes.and value = value := rfl

@[simp] theorem no_and (value : Truth) : Truth.no.and value = .no := rfl

@[simp] theorem and_no (value : Truth) : value.and .no = .no := by cases value <;> rfl

@[simp] theorem or_no (value : Truth) : value.or .no = value := by cases value <;> rfl

@[simp] theorem no_or (value : Truth) : Truth.no.or value = value := rfl

@[simp] theorem or_yes (value : Truth) : value.or .yes = .yes := by cases value <;> rfl

theorem and_assoc (first second third : Truth) : (first.and second).and third = first.and (second.and third) := by
  cases first <;> cases second <;> cases third <;> rfl

theorem or_assoc (first second third : Truth) : (first.or second).or third = first.or (second.or third) := by
  cases first <;> cases second <;> cases third <;> rfl

@[simp] theorem and_eq_yes (first second : Truth) : first.and second = .yes ↔ first = .yes ∧ second = .yes := by
  cases first <;> cases second <;> decide

@[simp] theorem or_eq_yes (first second : Truth) : first.or second = .yes ↔ first = .yes ∨ second = .yes := by
  cases first <;> cases second <;> decide

theorem combine_assoc (junction : Junction) (first second third : Truth) :
    combine junction (combine junction first second) third =
      combine junction first (combine junction second third) := by
  cases junction
  · exact and_assoc first second third
  · exact or_assoc first second third

@[simp] theorem combine_neutral (junction : Junction) (value : Truth) :
    combine junction value (neutral junction) = value := by
  cases junction <;> simp [combine, neutral]

@[simp] theorem neutral_combine (junction : Junction) (value : Truth) :
    combine junction (neutral junction) value = value := by
  cases junction <;> rfl

@[simp] theorem join_nil (junction : Junction) : join junction [] = neutral junction := rfl

@[simp] theorem join_cons (junction : Junction) (value : Truth) (rest : List Truth) :
    join junction (value :: rest) = combine junction value (join junction rest) := rfl

theorem join_append (junction : Junction) (first second : List Truth) :
    join junction (first ++ second) = combine junction (join junction first) (join junction second) := by
  induction first with
  | nil => simp
  | cons value rest ih => simp [ih, combine_assoc]

@[simp] theorem join_and_eq_yes (values : List Truth) :
    join .and values = .yes ↔ ∀ value ∈ values, value = .yes := by
  induction values with
  | nil => simp [neutral]
  | cons value rest ih => simp [combine, ih]

@[simp] theorem join_or_eq_yes (values : List Truth) : join .or values = .yes ↔ .yes ∈ values := by
  induction values with
  | nil => simp [neutral]
  | cons value rest ih => rw [join_cons, combine, or_eq_yes, ih, List.mem_cons, eq_comm]

/-- Reads on after the alternatives `before` and a conjunction under way. -/
def foldFrom (before current : Truth) : List (Junction × Truth) → Truth
  | [] => before.or current
  | (.and, value) :: rest => foldFrom before (current.and value) rest
  | (.or, value) :: rest => foldFrom (before.or current) value rest

/-- The value of a list that is read from left to right: each `or` starts a new alternative, and the
junction of the first value does not count. An empty list has none. -/
def fold : List (Junction × Truth) → Option Truth
  | [] => none
  | (_, value) :: rest => some (foldFrom .no value rest)

end Truth

end DataGrid.Sql
