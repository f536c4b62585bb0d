import DataGrid.Value
import DataGrid.Error
import DataGrid.Text.Class

/-!
Raw SQL fragments. Each question mark is a place for a value; it becomes a numbered name, and then every
name after a colon is a bound one, a name that no place has being bound to null. A place whose name
runs into the text around it is refused.
-/

namespace DataGrid.Sql

/-- A part of a fragment: characters that stand for themselves, a place with its value, or a name that no
place has. -/
inductive FragmentPart where
  | chars (content : List Char)
  | place (name : String) (value : Value)
  | free (name : String)
  deriving Repr

abbrev Fragment := List FragmentPart

namespace Fragment

def placeName (index : Nat) : String := "raw_" ++ String.ofList (Nat.toDigits 10 index)

/-- Replaces the question marks by names numbered from `index`. -/
def numberPlaces (index : Nat) : List Char → List Char
  | [] => []
  | c :: rest =>
    if c = '?' then ':' :: (placeName index).toList ++ numberPlaces (index + 1) rest
    else c :: numberPlaces index rest

inductive Scanned where
  | char (c : Char)
  | name (content : List Char)

/-- Whether a colon after `before` can start a bound name. -/
def opensName (before : Option Char) : Bool :=
  match before with
  | some c => !(c = ':' || c = '\\' || Text.isWordChar c)
  | none => true

/-- Finds the bound names: word characters after a single colon that no colon follows. `skip` counts the
characters of a name already found. -/
def scan (before : Option Char) (skip : Nat) : List Char → List Scanned
  | [] => []
  | c :: rest =>
    match skip with
    | skip + 1 => scan (some c) skip rest
    | 0 =>
      let name := rest.takeWhile Text.isWordChar
      if c = ':' && opensName before && !name.isEmpty && (rest.drop name.length).head? != some ':' then
        .name name :: scan (some c) name.length rest
      else .char c :: scan (some c) 0 rest

def assemble (valueOf : String → Option Value) : List Scanned → Fragment
  | [] => []
  | .char c :: rest =>
    match assemble valueOf rest with
    | .chars content :: more => .chars (c :: content) :: more
    | more => .chars [c] :: more
  | .name content :: rest =>
    let name := String.ofList content
    (match valueOf name with
      | some value => .place name value
      | none => .free name) :: assemble valueOf rest

def names : Fragment → List String
  | [] => []
  | .chars _ :: rest => names rest
  | .place name _ :: rest | .free name :: rest => name :: names rest

def freeNames : Fragment → List String
  | [] => []
  | .chars _ :: rest | .place _ _ :: rest => freeNames rest
  | .free name :: rest => name :: freeNames rest

/-- The values that a fragment binds: one for each name, where it first appears. -/
def valuesFrom (before : List String) : Fragment → List Value
  | [] => []
  | .chars _ :: rest => valuesFrom before rest
  | .place name value :: rest =>
    if before.contains name then valuesFrom before rest else value :: valuesFrom (name :: before) rest
  | .free name :: rest =>
    if before.contains name then valuesFrom before rest else .null :: valuesFrom (name :: before) rest

def values (fragment : Fragment) : List Value := valuesFrom [] fragment

def ofSql (sql : String) (bindings : List Value) : Except Error Fragment :=
  let chars := sql.toList
  if chars.count '?' ≠ bindings.length then
    .error (.bindingCount (chars.count '?') bindings.length sql)
  else
    let places := (List.range bindings.length).map placeName
    let fragment := assemble (fun name => (places.zip bindings).lookup name) (scan none 0 (numberPlaces 0 chars))
    if places.all (names fragment).contains then .ok fragment else .error .badOperand

/-- Removes the backslash before a colon, unless a word and another colon follow. -/
def unescapeColons : List Char → List Char
  | [] => []
  | '\\' :: ':' :: rest =>
    if (rest.dropWhile Text.isWordChar).head? = some ':' then '\\' :: unescapeColons (':' :: rest)
    else ':' :: unescapeColons rest
  | c :: rest => c :: unescapeColons rest

end Fragment

end DataGrid.Sql
