import DataGrid.Query.Method

/-!
The operations that an override may name. Each has a name, the number of parameters that it takes with
the column counted, and an alternative that joins its condition by `or`.
-/

namespace DataGrid

inductive Operation where
  | compare | orCompare | raw | orRaw | member | orMember | null | orNull | notNull | orNotNull
  | orderBy | orderByRaw
  deriving DecidableEq, Repr

namespace Operation

def all : List Operation :=
  [compare, orCompare, raw, orRaw, member, orMember, null, orNull, notNull, orNotNull, orderBy, orderByRaw]

def name : Operation → String
  | compare => "where"
  | orCompare => "or_where"
  | raw => "where_raw"
  | orRaw => "or_where_raw"
  | member => "where_in"
  | orMember => "or_where_in"
  | null => "where_null"
  | orNull => "or_where_null"
  | notNull => "where_not_null"
  | orNotNull => "or_where_not_null"
  | orderBy => "order_by"
  | orderByRaw => "order_by_raw"

def arity : Operation → Nat
  | compare | member => 4
  | orCompare | raw | orMember | null => 3
  | orRaw | orNull | notNull | orderBy | orderByRaw => 2
  | orNotNull => 1

/-- Whether the first parameter is the column that the override is registered for. -/
def takesColumn : Operation → Bool
  | raw | orRaw | orderByRaw => false
  | _ => true

/-- The operation that joins the same condition by `or`; an order has none of its own. -/
def alternative : Operation → Operation
  | compare => orCompare
  | raw => orRaw
  | member => orMember
  | null => orNull
  | notNull => orNotNull
  | operation => operation

def isOrder : Operation → Bool
  | orderBy | orderByRaw => true
  | _ => false

/-- A part of a name, a low line and small letters in place of capitals. -/
def partName (part : String) : String :=
  let chars := part.toList
  if chars.any Char.isUpper && !chars.any Char.isLower then "_" ++ String.ofList (chars.map Char.toLower) else part

/-- A name with its words joined by low lines; leading low lines do not count. -/
def wordsJoined (parts : List String) : String :=
  String.ofList ((String.join (parts.map partName)).toList.dropWhile (· = '_'))

def ofParts? (parts : List String) : Option Operation :=
  let given := wordsJoined parts
  all.find? fun operation => operation.name == given

def ofValue (value : Value) : Except Error Operation := do
  let parts ← (← value.members).mapM fun
    | .text part => .ok part
    | _ => .error .noSuchMember
  match ofParts? parts with
  | some operation => .ok operation
  | none => .error (.unknownOperation value.display)

theorem ofParts?_name (operation : Operation) :
    ofParts? (operation.name.toList.map fun c => String.ofList [c]) = some operation := by
  cases operation <;> decide +kernel

end Operation

end DataGrid
