import DataGrid.Sql.Fragment
import DataGrid.Value.Order
import DataGrid.Text.Blank
import DataGrid.Text.Lower

/-!
Conditions of a statement. Lists joined by one word are kept flat: a list inside parentheses that is
joined by the same word gives up its parentheses, every other operand keeps or gets its own where its
meaning could change without them. Two values that are compared with each other give no condition but
a truth value, which decides a list or is left out of it.
-/

namespace DataGrid.Sql

inductive Junction where
  | and | or
  deriving DecidableEq, Repr

def Junction.word : Junction → String
  | .and => "and"
  | .or => "or"

def Junction.ofText? (word : String) : Option Junction :=
  if word = "and" then some .and else if word = "or" then some .or else none

inductive Expr where
  | literal (sql : String)
  | column (table name : String)
  | lower (inner : Expr)
  | cast (inner : Expr) (type : String)
  deriving DecidableEq, Repr

inductive Comparison where
  | equal | unequal | greater | atLeast | less | atMost | like | notLike
  deriving DecidableEq, Repr

namespace Comparison

def sign : Comparison → String
  | .equal => "="
  | .unequal => "<>"
  | .greater => ">"
  | .atLeast => ">="
  | .less => "<"
  | .atMost => "<="
  | .like => "LIKE"
  | .notLike => "NOT LIKE"

/-- The comparison that a word or sign names, whatever its case and the blanks around it. -/
def ofText? (operator : String) : Option Comparison :=
  match String.ofList (Text.lower (Text.trim operator.toList)) with
  | "=" => some .equal
  | "<>" | "!=" => some .unequal
  | ">" => some .greater
  | ">=" => some .atLeast
  | "<" => some .less
  | "<=" => some .atMost
  | "like" => some .like
  | "not like" => some .notLike
  | _ => none

end Comparison

inductive Atom where
  | truth (flag : Bool)
  | compare (left : Expr) (operator : Comparison) (value : Value)
  | isTruth (left : Expr) (flag : Bool)
  | isNull (left : Expr) (negated : Bool)
  | member (left : Expr) (values : List Value) (negated : Bool)
  | sameColumn (left right : Expr)
  | regexp (left : Expr) (operator : String) (pattern : String)
  | regexpLike (left : Expr) (pattern : String) (ignoreCase : Bool)
  | fragment (content : Fragment)
  deriving Repr

/-- The rows of an `EXISTS` subquery: a table, or a table joined to a second one. -/
inductive Rows where
  | table (name : String)
  | joined (name other : String) (left right : Expr)
  deriving DecidableEq, Repr

inductive Cond where
  | atom (test : Atom)
  | exists (rows : Rows) (inner : Cond)
  | group (inner : Cond)
  | joined (junction : Junction) (terms : List Cond)
  deriving Repr

instance : Inhabited Cond := ⟨.joined .and []⟩

/-- Compares an expression with a value. Null and truth values can only be tested for equality or
inequality. -/
def compare (left : Expr) (operator : Comparison) (value : Value) : Except Error Atom :=
  match operator, value with
  | .equal, .null => .ok (.isNull left false)
  | .equal, .bool flag => .ok (.isTruth left flag)
  | .equal, _ | .unequal, _ => .ok (.compare left operator value)
  | _, .null | _, .bool _ => .error .badOperand
  | _, _ => .ok (.compare left operator value)

def Comparison.holds (operator : Comparison) (x y : Value) : Except Error Bool :=
  match operator with
  | .equal => x.equal y
  | .greater => return (← x.order y) == some .gt
  | .atLeast => return (← x.order y).any (· != .lt)
  | .less => return (← x.order y) == some .lt
  | .atMost => return (← x.order y).any (· != .gt)
  | .unequal | .like | .notLike => .error .noSuchMember

namespace Cond

mutual

/-- How many steps are under way inside one another when a condition is written. -/
def steps : Cond → Nat
  | .atom _ => 40
  | .exists _ inner => inner.steps + 16
  | .group inner => inner.steps + 2
  | .joined _ terms => mostSteps terms + 6

def mostSteps : List Cond → Nat
  | [] => 0
  | cond :: rest => max cond.steps (mostSteps rest)

end

def core : Cond → Cond
  | .group inner => core inner
  | cond => cond

/-- A condition as a term of a list, between parentheses where it needs them. -/
def shield (junction : Junction) (cond : Cond) : Cond :=
  match cond with
  | .atom (.compare _ .unequal _) | .atom (.regexp ..) | .exists .. => .group cond
  | .joined .or _ => if junction = .and then .group cond else cond
  | _ => cond

def termsOf (junction : Junction) (cond : Cond) : List Cond :=
  match core cond with
  | .joined inner terms => if inner = junction then terms else [shield junction cond]
  | _ => [shield junction cond]

/-- Joins conditions; a single one stays as it is. -/
def join (junction : Junction) (conds : List Cond) : Cond :=
  match conds with
  | [cond] => cond
  | _ => .joined junction (conds.flatMap (termsOf junction))

/-- The conditions of a `WHERE` clause, none when there are none. Groups keep their parentheses. -/
def clause? (conds : List Cond) : Option Cond :=
  match conds with
  | [] => none
  | [cond] => some cond
  | _ => some (.joined .and (conds.map (shield .and)))

end Cond

/-- What a list of conditions comes to: a condition, or a truth value that was settled when it was
added. -/
inductive Clause where
  | cond (condition : Cond)
  | settled (flag : Bool)
  deriving Repr

namespace Clause

def cond? : Clause → Option Cond
  | .cond condition => some condition
  | .settled _ => none

def decisive : Junction → Bool
  | .and => false
  | .or => true

def decides (junction : Junction) : Clause → Bool
  | .settled flag => flag == decisive junction
  | .cond _ => false

/-- Joins clauses; a single one stays as it is. A truth value that decides is all that is left, any other
is left out. -/
def join (junction : Junction) (clauses : List Clause) : Clause :=
  match clauses with
  | [clause] => clause
  | _ =>
    if clauses.any (decides junction) then .cond (.atom (.truth (decisive junction)))
    else
      match clauses.filterMap cond? with
      | [] => .cond (.atom (.truth (!decisive junction)))
      | conds => .cond (Cond.join junction conds)

/-- The condition of a `WHERE` clause: that of the base, and a clause. -/
def filter? (base : Option Cond) (clause : Option Clause) : Option Cond :=
  match clause with
  | none => base
  | some (.cond condition) => Cond.clause? (base.toList ++ [condition])
  | some (.settled true) => base.or (some (.atom (.truth true)))
  | some (.settled false) => some (.atom (.truth false))

end Clause

end DataGrid.Sql
