import DataGrid.Moment
import DataGrid.Value.Item

/-!
The parts of values that a row template finds by name after a point: the parts of numbers, moments,
identifiers and rows, and what kind of value something is. Some parts are no values themselves.
-/

namespace DataGrid.Template

/-- A kind of value: its module and name, and the kinds that it specializes, the nearest first. -/
structure KindName where
  module : String
  name : String
  general : List (String × String)

def anything : List (String × String) := [("builtins", "object")]

def KindName.full (module name : String) : String := if module = "builtins" then name else module ++ "." ++ name

def KindName.text (kind : KindName) : String := "<class '" ++ full kind.module kind.name ++ "'>"

inductive Part where
  | value (content : Value)
  | kind (name : KindName)
  | span (micros : Int)
  | zone (offset : Int)
  | label (plain quoted : String)

def plural (days : Int) : String := if days.natAbs = 1 then " day, " else " days, "

def spanText (micros : Int) : String :=
  let (days, rest) := (micros.fdiv 86400000000, (micros.fmod 86400000000).toNat)
  let seconds := rest / 1000000
  let clock := Nat.toDigits 10 (seconds / 3600) ++ ':' :: filled '0' 2 (seconds / 60 % 60) ++
    ':' :: filled '0' 2 (seconds % 60)
  let part := if rest % 1000000 = 0 then [] else '.' :: filled '0' 6 (rest % 1000000)
  (if days = 0 then "" else intText days ++ plural days) ++ String.ofList (clock ++ part)

namespace Part

def display : Part → String
  | .value content => content.display
  | .kind name => name.text
  | .span micros => spanText micros
  | .zone offset => String.ofList (Moment.zoneName offset)
  | .label plain _ => plain

def shown : Part → String
  | .value content => content.shown
  | .kind name => name.text
  | .span micros => spanExpression micros
  | .zone offset => offsetExpression offset
  | .label _ quoted => quoted

end Part

def Part.int (n : Int) : Part := .value (.int n)

def cells (items : List Value) : Part := .value (.row (items.map fun item => ("", item)))

def kindOf : Value → KindName
  | .null => ⟨"builtins", "NoneType", anything⟩
  | .bool _ => ⟨"builtins", "bool", [("builtins", "int"), ("builtins", "object")]⟩
  | .int _ => ⟨"builtins", "int", anything⟩
  | .float _ => ⟨"builtins", "float", anything⟩
  | .text _ => ⟨"builtins", "str", anything⟩
  | .bytes _ => ⟨"builtins", "bytes", anything⟩
  | .decimal _ => ⟨"decimal", "Decimal", anything⟩
  | .moment point =>
    match point.kind with
    | .date => ⟨"datetime", "date", anything⟩
    | .time => ⟨"datetime", "time", anything⟩
    | .dateTime => ⟨"datetime", "datetime", [("datetime", "date"), ("builtins", "object")]⟩
  | .uuid _ => ⟨"uuid", "UUID", anything⟩
  | .foreign => ⟨"builtins", "object", []⟩
  | .list _ => ⟨"builtins", "list", anything⟩
  | .object _ => ⟨"builtins", "dict", anything⟩
  | .row _ => ⟨"sqlalchemy.engine.row", "Row", []⟩

def partOfKind (kind : KindName) (name : String) : Except Error Part :=
  match name with
  | "__name__" | "__qualname__" => .ok (.value (.text kind.name))
  | "__module__" => .ok (.value (.text kind.module))
  | "__class__" => .ok (.kind ⟨"builtins", "type", anything⟩)
  | "__base__" =>
    match kind.general with
    | (module, name) :: rest => .ok (.kind ⟨module, name, rest⟩)
    | [] => .ok (.value .null)
  | "__bases__" | "__mro__" =>
    let own := if name = "__mro__" then [(kind.module, kind.name)] else []
    let kinds := own ++ (if name = "__mro__" then kind.general else kind.general.take 1)
    let texts := kinds.map fun (module, name) => (KindName.text ⟨module, name, []⟩)
    let text := "(" ++ ", ".intercalate texts ++ (if texts.length = 1 then ",)" else ")")
    .ok (.label text text)
  | _ => .error .noSuchMember

def extremeMoment (kind : MomentKind) (last : Bool) : Moment :=
  match kind, last with
  | .date, false => { kind, year := 1 }
  | .date, true => { kind, year := 9999, month := 12, day := 31 }
  | .dateTime, false => { kind, year := 1 }
  | .dateTime, true =>
    { kind, year := 9999, month := 12, day := 31, hour := 23, minute := 59, second := 59, micro := 999999 }
  | .time, false => { kind }
  | .time, true => { kind, hour := 23, minute := 59, second := 59, micro := 999999 }

def partOfMoment (moment : Moment) (name : String) : Except Error Part :=
  match name, moment.dated, moment.timed with
  | "year", true, _ => .ok (.int moment.year)
  | "month", true, _ => .ok (.int moment.month)
  | "day", true, _ => .ok (.int moment.day)
  | "hour", _, true => .ok (.int moment.hour)
  | "minute", _, true => .ok (.int moment.minute)
  | "second", _, true => .ok (.int moment.second)
  | "microsecond", _, true => .ok (.int moment.micro)
  | "fold", _, true => .ok (.int 0)
  | "tzinfo", _, true => .ok (moment.offset.elim (.value .null) .zone)
  | "min", _, _ => .ok (.value (.moment (extremeMoment moment.kind false)))
  | "max", _, _ => .ok (.value (.moment (extremeMoment moment.kind true)))
  | "resolution", _, timed => .ok (.span (if timed then 1 else 86400000000))
  | _, _, _ => .error .noSuchMember

def partOfUuid (canonical name : String) : Except Error Part :=
  let digits := canonical.toList.filter (· ≠ '-')
  let bytes := Text.bytesOfHex digits
  let part (start size : Nat) : Int := Text.hexNumber ((digits.drop start).take size)
  let sequence := part 16 2 % 64 * 256 + part 18 2
  let variant := part 16 1
  match name with
  | "hex" => .ok (.value (.text (String.ofList digits)))
  | "int" => .ok (.int (part 0 32))
  | "urn" => .ok (.value (.text ("urn:uuid:" ++ canonical)))
  | "bytes" => .ok (.value (.bytes bytes))
  | "bytes_le" =>
    let turned (start size : Nat) : List UInt8 := ((bytes.drop start).take size).reverse
    .ok (.value (.bytes (turned 0 4 ++ turned 4 2 ++ turned 6 2 ++ bytes.drop 8)))
  | "fields" =>
    .ok (cells ([part 0 8, part 8 4, part 12 4, part 16 2, part 18 2, part 20 12].map .int))
  | "time_low" => .ok (.int (part 0 8))
  | "time_mid" => .ok (.int (part 8 4))
  | "time_hi_version" => .ok (.int (part 12 4))
  | "time" => .ok (.int ((part 12 4 % 4096 * 65536 + part 8 4) * 4294967296 + part 0 8))
  | "clock_seq_hi_variant" => .ok (.int (part 16 2))
  | "clock_seq_low" => .ok (.int (part 18 2))
  | "clock_seq" => .ok (.int sequence)
  | "node" => .ok (.int (part 20 12))
  | "variant" =>
    .ok (.value (.text (if variant < 8 then "reserved for NCS compatibility"
      else if variant < 12 then "specified in RFC 4122"
      else if variant < 14 then "reserved for Microsoft compatibility" else "reserved for future definition")))
  | "version" => .ok (.value (if 8 ≤ variant ∧ variant < 12 then .int (part 12 1) else .null))
  | "is_safe" => .ok (.label "SafeUUID.unknown" "<SafeUUID.unknown: None>")
  | _ => .error .noSuchMember

/-- What is found under a name in a row: its own parts, then its values. -/
def partOfRow (fields : List (String × Value)) (name : String) : Except Error Part :=
  match name with
  | "_fields" => .ok (cells (fields.map fun (key, _) => .text key))
  | "_mapping" => .ok (.value (.object fields))
  | "t" | "_t" | "_data" => .ok (.value (.row fields))
  | _ =>
    match Value.field? fields name with
    | some item => .ok (.value item)
    | none => .error .noSuchMember

def partOfValue (value : Value) (name : String) : Except Error Part :=
  match value, name with
  | _, "__class__" => .ok (.kind (kindOf value))
  | .int n, "real" | .int n, "numerator" => .ok (.int n)
  | .int _, "imag" | .bool _, "imag" => .ok (.int 0)
  | .int _, "denominator" | .bool _, "denominator" => .ok (.int 1)
  | .bool flag, "real" | .bool flag, "numerator" => .ok (.int (if flag then 1 else 0))
  | .float x, "real" => .ok (.value (.float x))
  | .float _, "imag" => .ok (.value (.float (Double.zero false)))
  | .decimal d, "real" => .ok (.value (.decimal d))
  | .decimal _, "imag" => .ok (.value (.decimal (.finite false 0 0)))
  | .moment point, name => partOfMoment point name
  | .uuid canonical, name => partOfUuid canonical name
  | .row fields, name => partOfRow fields name
  | _, _ => .error .noSuchMember

def partOfSpan (micros : Int) (name : String) : Except Error Part :=
  match name with
  | "days" => .ok (.int (micros.fdiv 86400000000))
  | "seconds" => .ok (.int (micros.fmod 86400000000 / 1000000))
  | "microseconds" => .ok (.int (micros.fmod 1000000))
  | "resolution" => .ok (.span 1)
  | "min" => .ok (.span (-999999999 * 86400000000))
  | "max" => .ok (.span (1000000000 * 86400000000 - 1))
  | "__class__" => .ok (.kind ⟨"datetime", "timedelta", anything⟩)
  | _ => .error .noSuchMember

def partOfZone (name : String) : Except Error Part :=
  match name with
  | "utc" => .ok (.zone 0)
  | "min" => .ok (.zone (-86340000000))
  | "max" => .ok (.zone 86340000000)
  | "__class__" => .ok (.kind ⟨"datetime", "timezone", [("datetime", "tzinfo"), ("builtins", "object")]⟩)
  | _ => .error .noSuchMember

def Part.named (part : Part) (name : String) : Except Error Part :=
  match part with
  | .value content => partOfValue content name
  | .kind own => partOfKind own name
  | .span micros => partOfSpan micros name
  | .zone _ => partOfZone name
  | .label .. => .error .noSuchMember

def Part.at (part : Part) (index : Int) : Except Error Part :=
  match part with
  | .value content => return .value (← content.itemAt index)
  | _ => .error .wrongType

def Part.keyed (part : Part) (key : String) : Except Error Part :=
  match part with
  | .value content => return .value (← content.itemNamed key)
  | _ => .error .wrongType

end DataGrid.Template
