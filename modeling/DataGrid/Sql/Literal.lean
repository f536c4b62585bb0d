import DataGrid.Sql.Dialect
import DataGrid.Value.Integer
import DataGrid.Value.Order
import DataGrid.Text.Encoding

/-!
Values written inline. A text stands between single quotes with inner ones doubled, a number for itself,
a truth value as a word or a number; lists and records have no inline form. In a list of values the
first one decides how all are written, except that a null is always a null.
-/

namespace DataGrid.Sql

inductive LiteralKind where
  | integer | number | truth | text | bytes | moment (kind : MomentKind) | uuid | null | sequence | unwritable
  deriving DecidableEq, Repr

def literalKind : Value → LiteralKind
  | .null => .null
  | .bool _ => .truth
  | .int _ => .integer
  | .float _ | .decimal _ => .number
  | .text _ => .text
  | .bytes _ => .bytes
  | .moment point => .moment point.kind
  | .uuid _ => .uuid
  | .list _ | .row _ => .sequence
  | .object _ | .foreign => .unwritable

namespace Dialect

/-- Doubles the backslashes of a text where the database reads them as escapes. -/
def backslash (dialect : Dialect) (chars : List Char) : List Char :=
  if dialect.doublesBackslash then chars.flatMap fun c => if c = '\\' then ['\\', '\\'] else [c] else chars

def quoteText (chars : List Char) : List Char :=
  '\'' :: chars.flatMap (fun c => if c = '\'' then ['\'', '\''] else [c]) ++ ['\'']

def textLiteral (dialect : Dialect) (s : String) : String :=
  String.ofList (dialect.backslash (quoteText (dialect.percent s.toList)))

def truthLiteral (dialect : Dialect) (flag : Bool) : String :=
  if dialect.truthWords then (if flag then "true" else "false") else (if flag then "1" else "0")

/-- What a kind of moment shows of a moment: its date, its time, or all; a moment without the part is
shown as it is. -/
def momentText (kind : MomentKind) (moment : Moment) : String :=
  match kind with
  | .date => String.ofList (if moment.dated then moment.dateText else moment.timeText)
  | .time => String.ofList (if moment.timed then moment.timeText else moment.dateText)
  | .dateTime => moment.textWith ' '

/-- A moment in full as its kind is written, without its zone; what has no such part is refused. -/
def paddedMoment (kind : MomentKind) (moment : Moment) : Except Error String :=
  let clock := Moment.clockText [moment.hour, moment.minute, moment.second] ++ '.' :: filled '0' 6 moment.micro
  match kind, moment.kind with
  | .date, .date | .date, .dateTime => .ok (String.ofList moment.dateText)
  | .time, .time => .ok (String.ofList clock)
  | .dateTime, .date | .dateTime, .dateTime => .ok (String.ofList (moment.dateText ++ ' ' :: clock))
  | _, _ => .error .unrenderable

def momentCall (kind : MomentKind) (moment : Moment) : String :=
  let name := if moment.micro = 0 then "TO_DATE" else "TO_TIMESTAMP"
  let form :=
    if kind = .date then "YYYY-MM-DD"
    else if moment.micro = 0 then "YYYY-MM-DD HH24:MI:SS" else "YYYY-MM-DD HH24:MI:SS.FF"
  name ++ "('" ++ momentText kind moment ++ "', '" ++ form ++ "')"

def momentLiteral (dialect : Dialect) (kind : MomentKind) (moment : Moment) : Except Error String :=
  match dialect.moments, kind with
  | .padded, kind => return "'" ++ (← paddedMoment kind moment) ++ "'"
  | .conversion, .date | .conversion, .dateTime => .ok (momentCall kind moment)
  | _, kind => .ok ("'" ++ momentText kind moment ++ "'")

def uuidLiteral (dialect : Dialect) (canonical : String) : String :=
  "'" ++ (if dialect.knowsUuid then canonical else String.ofList (canonical.toList.filter (· ≠ '-'))) ++ "'"

def literalAs (dialect : Dialect) (kind : LiteralKind) (value : Value) : Except Error String :=
  match kind, value with
  | .sequence, _ => .error .noSuchMember
  | .unwritable, _ => .error .unrenderable
  | _, .null => .ok "NULL"
  | .integer, value =>
    match value.toInteger with
    | .ok n => if isTooLong n then .error .unrenderable else .ok (intText n)
    | .error _ => .error .unrenderable
  | .number, .text s => if (Decimal.ofText? s).isSome then .ok s else .error .unrenderable
  | .number, value => if value.magnitude?.isSome then .ok value.display else .error .unrenderable
  | .truth, value =>
    if value.same (.int 0) then .ok (dialect.truthLiteral false)
    else if value.same (.int 1) then .ok (dialect.truthLiteral true)
    else .error .unrenderable
  | .text, .text s => .ok (dialect.textLiteral s)
  | .bytes, .bytes content =>
    match Text.decodeUtf8 false content with
    | some chars => .ok (String.ofList (dialect.backslash (quoteText chars)))
    | none => .error .unrenderable
  | .moment kind, .moment point => dialect.momentLiteral kind point
  | .uuid, .uuid canonical => .ok (dialect.uuidLiteral canonical)
  | .uuid, value =>
    if dialect.knowsUuid then .ok (String.ofList (quoteText value.display.toList)) else .error .unrenderable
  | _, _ => .error .unrenderable

def literal (dialect : Dialect) (value : Value) : Except Error String :=
  match value with
  | .list _ | .row _ => .error .unrenderable
  | _ => dialect.literalAs (literalKind value) value

def memberLiterals (dialect : Dialect) (values : List Value) : Except Error (List String) :=
  match values with
  | [] => .ok []
  | first :: _ => values.mapM (dialect.literalAs (literalKind first))

end Dialect

end DataGrid.Sql
