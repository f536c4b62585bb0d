import DataGrid.Text.Hex
import DataGrid.Text.Lower
import DataGrid.Value.Display

/-!
Values that JSON has no form for, as records with a single field whose name says what they are:
decimals, moments, bytes, identifiers, numbers that are not finite, nested rows, and what has no written
form at all.
-/

namespace DataGrid.Json

/-- An identifier in its canonical form: 32 hexadecimal digits in five groups. -/
def canonicalUuid (s : String) : String :=
  let digits := (Text.lowerString s).toList.filter fun c => c.isDigit || ('a' ≤ c && c ≤ 'f')
  let part (start size : Nat) : String := String.ofList ((digits.drop start).take size)
  "-".intercalate [part 0 8, part 8 4, part 12 4, part 16 4, part 20 12]

def valueOfTag? (tag content : String) : Option Value :=
  match tag with
  | "$decimal" => some ((Decimal.ofText? content).elim .null .decimal)
  | "$datetime" => some (.moment (Moment.ofIso .dateTime content))
  | "$date" => some (.moment (Moment.ofIso .date content))
  | "$time" => some (.moment (Moment.ofIso .time content))
  | "$bytes" => some (.bytes (Text.bytesOfHex content.toList))
  | "$uuid" => some (.uuid (canonicalUuid content))
  | "$float" => some (.float (if content == "nan" then .nan else .infinite (content == "-inf")))
  | _ => none

def tagged (tag content : String) : Value := .object [(tag, .text content)]

mutual

def untag : Value → Value
  | .list items => .list (untagItems items)
  | .object [("$row", .object fields)] => .row (untagFields fields)
  | .object [("$opaque", _)] => .foreign
  | .object [(name, .text content)] => (valueOfTag? name content).getD (.object [(name, .text content)])
  | .object fields => .object (untagFields fields)
  | value => value

def untagItems : List Value → List Value
  | [] => []
  | item :: rest => untag item :: untagItems rest

def untagFields : List (String × Value) → List (String × Value)
  | [] => []
  | (name, value) :: rest => (name, untag value) :: untagFields rest

end

mutual

def tag : Value → Value
  | .decimal d => tagged "$decimal" d.text
  | .moment point =>
    let name := match point.kind with
      | .dateTime => "$datetime"
      | .date => "$date"
      | .time => "$time"
    tagged name point.iso
  | .bytes content => tagged "$bytes" (String.ofList (Text.hexOfBytes content))
  | .uuid canonical => tagged "$uuid" canonical
  | .foreign => .object [("$opaque", .bool true)]
  | .float .nan => tagged "$float" "nan"
  | .float (.infinite negative) => tagged "$float" (if negative then "-inf" else "inf")
  | .list items => .list (tagItems items)
  | .object fields => .object (tagFields fields)
  | .row fields => .object [("$row", .object (tagFields fields))]
  | value => value

def tagItems : List Value → List Value
  | [] => []
  | item :: rest => tag item :: tagItems rest

def tagFields : List (String × Value) → List (String × Value)
  | [] => []
  | (name, value) :: rest => (name, tag value) :: tagFields rest

end

end DataGrid.Json
