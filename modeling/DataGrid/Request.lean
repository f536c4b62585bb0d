import DataGrid.Request.Column
import DataGrid.Value.Integer
import DataGrid.Value.Item
import DataGrid.Json.Reader
import DataGrid.Text.Encoding

/-!
The request of one grid refresh: columns, sort order with its page, search word and filter tree. Each
part may come decoded or as JSON text; a part of the wrong shape counts as left out, and reading one
part never changes what another one says.
-/

namespace DataGrid

structure Request where
  /-- What was sent; anything that does not count as present is an empty record. -/
  parameters : Value

/-- The sort column and the page; a page size of zero is none. -/
structure Sorting where
  column : String
  descending : Bool
  page : Int
  pageSize : Int
  deriving DecidableEq, Repr

def directionWord (descending : Bool) : String := if descending then "desc" else "asc"

structure OrderTerm where
  column : String
  jsonPath : Value
  fallback : Value
  descending : Bool
  deriving Repr

namespace Request

def ofValue (value : Value) : Request := ⟨if value.truthy then value else .object []⟩

def parameter (request : Request) (name : String) : Except Error Value :=
  match request.parameters with
  | .object fields => .ok (Value.fieldOrNull fields name)
  | _ => .error .noSuchMember

/-- A parameter with JSON text decoded; the empty text is null. -/
def decoded (request : Request) (name : String) : Except Error Value := do
  match ← request.parameter name with
  | .text s => if s == "" then return .null else Json.parse name s.toList
  | .bytes content =>
    if content.isEmpty then return .null
    else
      let (encoding, content) := Text.detect content
      match Text.decode encoding true content with
      | some chars => Json.parseChars name chars
      | none => .error .undecodable
  | value => return value

def listParameter (request : Request) (name : String) : Except Error (List Value) := do
  match ← request.decoded name with
  | .list items => return items
  | _ => return []

def recordParameter (request : Request) (name : String) : Except Error (List (String × Value)) := do
  match ← request.decoded name with
  | .object fields => return fields
  | _ => return []

/-- An integer parameter; a number too large for one is reported as such. -/
def integer (name : String) (default : Int) (value : Value) : Except Error Int :=
  if value.missing then .ok default
  else
    match value.toInteger with
    | .ok n => .ok n
    | .error fault => do
      if fault.kind ≠ .type && fault.kind ≠ .value then throw fault
      value.checkText
      throw (.notAnInteger name value.shown)

def check (request : Request) : Except Error Unit := do
  let draw ← request.parameter "draw"
  if !draw.truthy && (← request.parameter "sEcho").truthy then throw .legacyRequest
  if !draw.truthy && !(← request.parameter "columns").truthy then throw .insufficientRequest

def columns (request : Request) : Except Error (List Column) := do
  (← request.listParameter "columns").mapM Column.ofValue

/-- A position among some items, none when it is outside of them. Only a whole number can be inside. -/
def positionAmong (size : Nat) (index : Value) : Except Error (Option Nat) := do
  let least ← Value.order (.int 0) index
  if least ≠ some .lt && least ≠ some .eq then return none
  if (← Value.order index (.int size)) ≠ some .lt then return none
  match index.index? with
  | some n => return some n.toNat
  | none => throw .wrongType

def column? (request : Request) (index : Value) : Except Error (Option Column) := do
  let columns ← request.columns
  return (← positionAmong columns.length index).bind fun n => columns[n]?

def sorting (request : Request) : Except Error Sorting := do
  let sort ← request.recordParameter "sort"
  let part := Value.fieldOrNull sort
  let column := (part "sortBy").presence
  column.checkText
  return {
    column := column.displayOrEmpty
    descending := (part "descending").flag
    page := ← integer "page" 1 (part "page")
    pageSize := ← integer "rowsPerPage" 0 (part "rowsPerPage") }

def keyword (request : Request) : Except Error String := do
  let word := Value.fieldOrNull (← request.recordParameter "search") "value"
  word.checkText
  return word.displayOrEmpty

def filters (request : Request) : Except Error Value := do
  match ← request.parameter "filter" with
  | .text _ | .bytes _ => request.decoded "filter"
  | value => return value.presence

def isSearchable (request : Request) : Except Error Bool := do
  if (← request.recordParameter "search").isEmpty then return false
  if (← request.keyword) != "" then return true
  return (← request.filters).truthy

def columnKeyword (request : Request) (index : Value) : Except Error String :=
  return ((← request.column? index).map (·.searchValue)).getD ""

/-- Whether a column takes part in a search; with `own`, only if it has its own search word. -/
def isColumnSearchable (request : Request) (index : Value) (own : Bool) : Except Error Bool := do
  match ← request.column? index with
  | some column => return column.searchable && (!own || column.searchValue != "")
  | none => return false

def searchableColumns (request : Request) : Except Error (List Nat) := do
  let columns ← request.columns
  return (List.range columns.length).filter fun index => (columns[index]?.map (·.searchable)).getD false

/-- The name of a column; a negative position counts from the end. -/
def columnName (request : Request) (index : Value) : Except Error String := do
  let columns ← request.columns
  match index.index? with
  | some n => return (← Value.memberAt "list index out of range" columns n).name
  | none => throw .wrongType

def isRegex (request : Request) (index : Value) : Except Error Bool :=
  return ((← request.column? index).map (·.isRegex)).getD false

def jsonPath (request : Request) (index : Value) : Except Error Value :=
  return ((← request.column? index).map (·.jsonPath)).getD .null

def isOrderable (request : Request) : Except Error Bool :=
  return (← request.sorting).column != ""

/-- The column to order by: none without a sort column or when its column is not orderable. -/
def orderTerm? (request : Request) : Except Error (Option OrderTerm) := do
  let sorting ← request.sorting
  if sorting.column == "" then return none
  match (← request.columns).find? fun column => column.name == sorting.column with
  | some column =>
    if column.orderable then
      return some ⟨sorting.column, column.jsonPath, column.fallback, sorting.descending⟩
    else return none
  | none => return some ⟨sorting.column, .null, .null, sorting.descending⟩

def isPaged (request : Request) : Except Error Bool := do
  let sort ← request.recordParameter "sort"
  return !(Value.fieldOrNull sort "page").missing && !(Value.fieldOrNull sort "rowsPerPage").missing

end Request

end DataGrid
