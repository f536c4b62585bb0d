import DataGrid.Value.Item
import DataGrid.Value.Order

/-!
Merging records. A field that both records hold is merged in turn when both values are records, kept
when they are equal, and replaced otherwise; a field of the second record alone is added. Lists take
part with their positions as keys.
-/

namespace DataGrid.Value

mutual

def mergeInto (old : Value) : Value → Except Error Value
  | .object ys =>
    match old with
    | .object xs => return .object (← mergeFields xs ys)
    | _ => return .object ys
  | new => return if ← equal old new then old else new

def mergeFields (xs : List (String × Value)) : List (String × Value) → Except Error (List (String × Value))
  | [] => .ok xs
  | (key, new) :: rest => do
    let merged ← match field? xs key with
      | some old => mergeInto old new
      | none => .ok new
    mergeFields (setField xs key merged) rest

end

/-- Merges what the source holds under a key into the entries of a record. -/
def mergeEntry (source : Value) (entries : List (Value × Value)) (key : Value) : Except Error (List (Value × Value)) := do
  match entries.find? fun (other, _) => same other key with
  | some (known, old) =>
    let merged ← mergeInto old (← source.underMember key)
    return entries.map fun (other, value) => if same other known then (other, merged) else (other, value)
  | none => return entries ++ [(key, ← source.underMember key)]

/-- Merges what the source holds under a key into a value that is no record. -/
def mergeMember (source target key : Value) : Except Error Value := do
  if ← target.holds key then
    let old ← target.underMember key
    let new ← source.underMember key
    if ← equal old new then return target else target.replaceAt key new
  else target.replaceAt key (← source.underMember key)

def ofEntries (entries : List (Value × Value)) : Value :=
  .object (entries.foldl (fun fields (key, value) => setField fields key.display value) [])

/-- Merges one value into another, under each member of the second as a key. -/
def merge (target source : Value) : Except Error Value :=
  match target, source with
  | .object xs, .object ys => return .object (← mergeFields xs ys)
  | .object xs, source => do
    let entries := xs.map fun (key, value) => (Value.text key, value)
    return ofEntries (← (← source.members).foldlM (mergeEntry source) entries)
  | target, source => do (← source.members).foldlM (mergeMember source) target

end DataGrid.Value
