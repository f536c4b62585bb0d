import DataGrid.Sql.Identifier
import DataGrid.Sql.Fragment
import DataGrid.Number.Text
import DataGrid.Text.Hex

/-!
Names that a statement makes up as it is written: for columns whose own name is taken, and for bound
values. A made-up name is a base and the number of its use; the bases of columns and values are counted
together. A name that is too long for the database is cut and numbered once more.
-/

namespace DataGrid.Sql

structure Naming where
  bases : List String := []
  cutColumns : List (String × String) := []
  cutValues : Nat := 0
  values : List (String × Bool) := []

/-- A step that makes up names; it fails when two values get one name. -/
abbrev Namer := StateT Naming (Except Error)

/-- Replaces each run of characters that a made-up name cannot hold by a low line. -/
def foldRuns (inRun : Bool) : List Char → List Char
  | [] => []
  | c :: rest =>
    if c = '%' || c = '(' || c = ')' || c = ' ' || c = '$' then
      if inRun then foldRuns true rest else '_' :: foldRuns true rest
    else c :: foldRuns false rest

def columnBase (name : String) : String := if name = "" then "anon" else String.ofList (foldRuns false name.toList)

def valueBase (column : String) : String :=
  let folded := foldRuns false column.toList
  String.ofList ((folded.dropWhile (· = '_')).reverse.dropWhile (· = '_')).reverse

def shownName (name : String) : String :=
  String.ofList (name.toList.map fun c => if c = '.' || c = '[' || c = ']' || c = ':' then '_' else c)

namespace Dialect

/-- The length to which a name is cut, the mark and number after it left out. -/
def cutLength (dialect : Dialect) : Nat := dialect.longestName - 6

def mustCut (dialect : Dialect) (name : String) : Bool := decide (dialect.cutLength < name.length)

def cutName (dialect : Dialect) (name : String) (number : Nat) : String :=
  String.ofList (name.toList.take dialect.cutLength ++ '_' :: Nat.toDigits 16 number)

end Dialect

namespace Namer

def numbered (base : String) : Namer String := do
  let naming ← get
  set { naming with bases := base :: naming.bases }
  return base ++ "_" ++ intText (naming.bases.count base + 1)

/-- The name under which a column is known, cut in one way wherever it is too long. -/
def column (dialect : Dialect) (name : String) : Namer String := do
  if !dialect.mustCut name then return name
  let naming ← get
  match naming.cutColumns.lookup name with
  | some short => return short
  | none =>
    let short := dialect.cutName name (naming.cutColumns.length + 1)
    set { naming with cutColumns := (name, short) :: naming.cutColumns }
    return short

/-- Gives a name to a value. Only values of free names share one. -/
def claim (name : String) (alone : Bool) : Namer Unit := do
  let naming ← get
  match naming.values.lookup name with
  | none => set { naming with values := (name, alone) :: naming.values }
  | some taken => if alone || taken then throw .unrenderable

def value (dialect : Dialect) (base : String) : Namer String := do
  let name ← numbered base
  let naming ← get
  let shortened := if dialect.mustCut name then dialect.cutName name (naming.cutValues + 1) else name
  if dialect.mustCut name then set { naming with cutValues := naming.cutValues + 1 }
  claim shortened true
  return shortened

/-- Names for the values of a fragment: each place has a name of its own, a free name stays. -/
def fragment (dialect : Dialect) (named : List (String × String)) : Fragment → Namer (List (String × String))
  | [] => return named
  | .chars _ :: rest => fragment dialect named rest
  | .place name _ :: rest => do
    if (named.lookup name).isSome then fragment dialect named rest
    else fragment dialect ((name, ← value dialect name) :: named) rest
  | .free name :: rest => do
    claim name false
    fragment dialect ((name, name) :: named) rest

end Namer

end DataGrid.Sql
