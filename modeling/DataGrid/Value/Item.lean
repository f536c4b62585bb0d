import DataGrid.Value.Display
import DataGrid.Value.Order

/-!
Going through a value and looking into it: lists, texts and bytes hold their members by position, where
a negative position counts from the end, and records hold their fields by name.
-/

namespace DataGrid.Value

/-- The members of a value that can be gone through: items, characters, field names or bytes. -/
def members : Value → Except Error (List Value)
  | .list items => .ok items
  | .text s => .ok (s.toList.map fun c => .text (String.ofList [c]))
  | .object fields => .ok (fields.map fun (name, _) => .text name)
  | .row fields => .ok (fields.map (·.2))
  | .bytes content => .ok (content.map fun b => .int b.toNat)
  | _ => .error .wrongType

def hashable : Value → Bool
  | .list _ | .object _ | .decimal (.nan _ true _) => false
  | .row fields => hashableCells fields
  | _ => true
where
  hashableCells : List (String × Value) → Bool
    | [] => true
    | (_, value) :: rest => hashable value && hashableCells rest

/-- The position that an index means among `size` members. -/
def position? (size : Nat) (index : Int) : Option Nat :=
  let place := if index < 0 then index + size else index
  if 0 ≤ place ∧ place < size then some place.toNat else none

def largestPosition : Int := 0x7fffffffffffffff

/-- What a position names among members, `reason` being why it may name nothing. -/
def memberAt {α : Type} (reason : String) (members : List α) (index : Int) : Except Error α :=
  if index < -largestPosition - 1 ∨ largestPosition < index then
    .error (.outOfRange "cannot fit 'int' into an index-sized integer")
  else
    match (position? members.length index).bind fun n => members[n]? with
    | some member => .ok member
    | none => .error (.outOfRange reason)

def itemAt (value : Value) (index : Int) : Except Error Value :=
  match value with
  | .list items => memberAt "list index out of range" items index
  | .text s => return .text (String.ofList [← memberAt "string index out of range" s.toList index])
  | .bytes content => return .int (← memberAt "index out of range" content index).toNat
  | .row fields => return (← memberAt "tuple index out of range" fields index).2
  | .object _ => .error (.unknownKey (intText index))
  | _ => .error .wrongType

def itemNamed (value : Value) (name : String) : Except Error Value :=
  match value with
  | .object fields =>
    match field? fields name with
    | some item => .ok item
    | none => .error (.unknownKey (quoted name))
  | _ => .error .wrongType

def index? : Value → Option Int
  | .int n => some n
  | .bool flag => some (if flag then 1 else 0)
  | _ => none

def underMember (value key : Value) : Except Error Value :=
  match key, key.index? with
  | .text name, _ => value.itemNamed name
  | _, some index => value.itemAt index
  | _, none => .error .wrongType

def isAmong (value : Value) : List Value → Except Error Bool
  | [] => .ok false
  | other :: rest => do if ← equal other value then return true else isAmong value rest

def holds (value member : Value) : Except Error Bool :=
  match value with
  | .list items => isAmong member items
  | .row fields => isAmong member (fields.map (·.2))
  | .bytes content =>
    match member.index? with
    | some n =>
      if 0 ≤ n ∧ n < 256 then .ok (content.any fun b => b.toNat = n)
      else .error (.badValue "byte must be in range(0, 256)")
    | none => .error .wrongType
  | _ => .error .wrongType

/-- Puts a value in the place that a key names; only lists can be changed. -/
def replaceAt (value key member : Value) : Except Error Value :=
  match value, key.index? with
  | .list items, some index =>
    match position? items.length index with
    | some n => .ok (.list (items.set n member))
    | none => .error (.outOfRange "list assignment index out of range")
  | _, _ => .error .wrongType

end DataGrid.Value
