import DataGrid.Config
import DataGrid.Query
import DataGrid.Request

/-!
The window of rows that a request asks for: as many rows as a page has, after those of the pages before.
The size of a page comes from the settings when the request names none, and is then taken as it is.
-/

namespace DataGrid

namespace Paging

/-- Refuses to repeat so many members so often; `reason` is given when no text could be so long. -/
def checkRepeated (pages members : Nat) (reason : Option String) : Except Error Unit := do
  if 0x8000000000000000 ≤ pages then throw (.tooLarge "cannot fit 'int' into an index-sized integer")
  if 0x8000000000000000 ≤ pages * members then throw ((reason.map Error.tooLarge).getD .outOfMemory)
  checkMemory (pages * members)

/-- How many rows some pages have together. A size that is no number is repeated. -/
def rowsOfPages (pages : Nat) : Value → Except Error Value
  | .bool flag => .ok (.int (if flag then pages else 0))
  | .int size => .ok (.int (pages * size))
  | .float size =>
    match Double.ofInt pages with
    | .infinite _ => .error (.tooLarge "int too large to convert to float")
    | count => .ok (.float (count.mul size))
  | .decimal size =>
    match size.times? pages with
    | some rows => .ok (.decimal rows)
    | none => .error .signaledNumber
  | .text content => do
    checkRepeated pages content.length (some "repeated string is too long")
    return .text (String.join (List.replicate (if content = "" then 0 else pages) content))
  | .bytes content => do
    checkRepeated pages content.length (some "repeated bytes are too long")
    return .bytes (List.replicate (if content.isEmpty then 0 else pages) content).flatten
  | .list items => do
    checkRepeated pages items.length none
    return .list (List.replicate (if items.isEmpty then 0 else pages) items).flatten
  | _ => .error .wrongType

def pageSize (config : Config) (sorting : Sorting) : Value :=
  if 0 < sorting.pageSize then .int sorting.pageSize else config.defaultPageSize

/-- The failure of a page below one: that it is, unless its number has too many digits to be told. -/
def refusal (page : Int) : Error :=
  if isTooLong page then .badValue (digitLimitReason none) else .pageBelowOne page

def offset (config : Config) (sorting : Sorting) : Except Error Value :=
  if sorting.page < 1 then .error (refusal sorting.page)
  else rowsOfPages (sorting.page - 1).toNat (pageSize config sorting)

def apply (request : Request) (config : Config) (query : Query) : Except Error Query := do
  let sorting ← request.sorting
  return { query with offset := ← offset config sorting, limit := pageSize config sorting }

end Paging

end DataGrid
