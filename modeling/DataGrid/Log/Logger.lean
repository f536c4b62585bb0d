import DataGrid.Error
import DataGrid.Log
import DataGrid.Text.Class
import DataGrid.Value.Display

/-!
A logger and its handlers. Handlers are attached when a logger is set up for the first time; a format
may be put in place of the old one later. A format has to hold a place for a named value.
-/

namespace DataGrid

inductive HandlerKind where
  | stream
  | null
  deriving DecidableEq, Repr

structure Handler where
  kind : HandlerKind
  format : Option String := none
  deriving DecidableEq, Repr

structure LogFormat where
  template : String
  deriving DecidableEq, Repr

namespace LogFormat

def isFlag (c : Char) : Bool := c = '#' || c = '0' || c = '+' || c = ' ' || c = '-'

def isDigit (c : Char) : Bool := (Text.digitValue? c).isSome

/-- What is left after an asterisk or a number; a text without either is left as it is. -/
def afterSize : List Char → List Char
  | '*' :: rest => rest
  | chars => chars.dropWhile isDigit

def afterPrecision (chars : List Char) : List Char :=
  match chars with
  | '.' :: '*' :: rest => rest
  | '.' :: c :: rest => if isDigit c then rest.dropWhile isDigit else chars
  | _ => chars

def letters : List Char := "diouxefgcrsaDIOUXEFGCRSA%".toList

/-- Whether what follows an opening bracket is a name, and then what a place may ask for. -/
def isPlaceAfter (chars : List Char) : Bool :=
  let name := chars.takeWhile Text.isWordChar
  match chars.drop name.length with
  | ')' :: rest =>
    !name.isEmpty &&
      ((afterPrecision (afterSize (rest.dropWhile isFlag))).head?.map letters.contains).getD false
  | _ => false

def hasPlace : List Char → Bool
  | [] => false
  | c :: rest => (c = '%' && rest.head? = some '(' && isPlaceAfter (rest.drop 1)) || hasPlace rest

def ofValue (value : Value) : Except Error LogFormat :=
  if !value.truthy then .ok ⟨"%(message)s"⟩
  else
    match value with
    | .text template =>
      if hasPlace template.toList then .ok ⟨template⟩
      else .error (.badValue ("Invalid format '" ++ template ++ "' for '%' style"))
    | _ => .error .wrongType

end LogFormat

def levelNames : List (String × Int) :=
  [("CRITICAL", 50), ("FATAL", 50), ("ERROR", 40), ("WARN", 30), ("WARNING", 30), ("INFO", 20), ("DEBUG", 10),
    ("NOTSET", 0)]

/-- A level by its name or number; a truth value is kept as one. -/
def levelOf : Value → Except Error Value
  | .int n => .ok (.int n)
  | .bool flag => .ok (.bool flag)
  | .text name =>
    match levelNames.lookup name with
    | some n => .ok (.int n)
    | none => .error (.badValue ("Unknown level: " ++ quoted name))
  | _ => .error .wrongType

structure Logger where
  handlers : List Handler := []
  level : Value := .int 0

namespace Logger

def usualLevel : Value := .int 20

/-- Sets up a logger that has no handlers yet; without any given it writes its notes out. The handlers
stay when the level turns out to be none. -/
def setUp (handlers : Option (List HandlerKind)) (format : Option LogFormat) (level : Value) : Action Logger Unit := do
  if (← get).handlers.isEmpty then
    let kinds := handlers.getD [.stream]
    modify fun logger => { logger with handlers := kinds.map fun kind => ⟨kind, format.map (·.template)⟩ }
    let level ← liftM (levelOf level)
    modify fun logger => { logger with level := level }

/-- Puts a format in place of that of every handler. The answer is the old one, that of the last handler
which had any. -/
def setFormat (format : LogFormat) : Action Logger (Option String) := do
  let handlers := (← get).handlers
  modify fun logger =>
    { logger with handlers := handlers.map fun handler => { handler with format := some format.template } }
  return (handlers.filterMap (·.format)).getLast?

end Logger

end DataGrid
