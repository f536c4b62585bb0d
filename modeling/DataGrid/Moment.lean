import DataGrid.Number.Text

/-!
Points in time: dates, times of day, and dates with times. A time may tell how far it is ahead of
universal time; two such times are compared by the instant that they mean.
-/

namespace DataGrid

inductive MomentKind where
  | date | time | dateTime
  deriving DecidableEq, Repr

/-- A date has no time of day, and a time belongs to the first day of 1900. -/
structure Moment where
  kind : MomentKind
  year : Nat := 1900
  month : Nat := 1
  day : Nat := 1
  hour : Nat := 0
  minute : Nat := 0
  second : Nat := 0
  micro : Nat := 0
  /-- The millionths of a second ahead of universal time, when they are known. -/
  offset : Option Int := none
  deriving DecidableEq, Repr

def isLeap (year : Nat) : Bool := year % 4 = 0 && (year % 100 ≠ 0 || year % 400 = 0)

def daysOf (year month : Nat) : Nat :=
  if month = 2 then if isLeap year then 29 else 28
  else if [4, 6, 9, 11].contains month then 30 else 31

def daysBefore (year month : Nat) : Nat :=
  let days := [0, 31, 59, 90, 120, 151, 181, 212, 243, 273, 304, 334].getD (month - 1) 0
  if 2 < month && isLeap year then days + 1 else days

namespace Moment

def dated (moment : Moment) : Bool := moment.kind != .time

def timed (moment : Moment) : Bool := moment.kind != .date

/-! Reading. -/

def withDate (chars : List Char) (moment : Moment) : Moment :=
  let digits := chars.filter (· ≠ '-')
  let part (start size : Nat) : Nat := digitsNumber ((digits.drop start).take size)
  { moment with year := part 0 4, month := part 4 2, day := part 6 2 }

def clockNumbers (chars : List Char) : Nat × Nat × Nat :=
  let digits := chars.filter (· ≠ ':')
  let part (start : Nat) : Nat := digitsNumber ((digits.drop start).take 2)
  (part 0, part 2, part 4)

def microsOf (digits : List Char) : Nat :=
  let digits := digits.take 6
  digitsNumber (digits ++ List.replicate (6 - digits.length) '0')

def isPoint (c : Char) : Bool := c = '.' || c = ','

/-- A time of day, and its distance to universal time when there is one. -/
def withTime (chars : List Char) (moment : Moment) : Moment :=
  let clock := chars.takeWhile fun c => c ≠ '+' && c ≠ '-' && c ≠ 'Z'
  let (hour, minute, second) := clockNumbers (clock.takeWhile fun c => !isPoint c)
  let fraction := (clock.dropWhile fun c => !isPoint c).drop 1
  let offset : Option Int := match chars.drop clock.length with
    | [] => none
    | sign :: zone =>
      let (hours, minutes, seconds) := clockNumbers (zone.takeWhile fun c => !isPoint c)
      let micros := microsOf ((zone.dropWhile fun c => !isPoint c).drop 1)
      let distance : Int := (hours * 3600 + minutes * 60 + seconds) * 1000000 + micros
      some (if sign = '-' then -distance else distance)
  { moment with hour, minute, second, micro := microsOf fraction, offset }

def ofIso (kind : MomentKind) (iso : String) : Moment :=
  let chars := iso.toList
  let dateSize := if (chars.drop 4).head? = some '-' then 10 else 8
  match kind with
  | .date => withDate chars ⟨kind, 1900, 1, 1, 0, 0, 0, 0, none⟩
  | .time => withTime (chars.dropWhile (· = 'T')) { kind }
  | .dateTime => withTime (chars.drop (dateSize + 1)) (withDate (chars.take dateSize) { kind })

/-! Writing. -/

def dateText (moment : Moment) : List Char :=
  filled '0' 4 moment.year ++ '-' :: filled '0' 2 moment.month ++ '-' :: filled '0' 2 moment.day

def clockText (parts : List Nat) : List Char := [':'].intercalate (parts.map (filled '0' 2))

/-- The distance to universal time, with a separator between its parts; whole minutes have no seconds. -/
def offsetText (separator : List Char) (offset : Int) : List Char :=
  let (n, micro) := (offset.natAbs / 1000000, offset.natAbs % 1000000)
  (if offset < 0 then '-' else '+') :: filled '0' 2 (n / 3600) ++ separator ++ filled '0' 2 (n / 60 % 60) ++
    (if n % 60 = 0 && micro = 0 then [] else separator ++ filled '0' 2 (n % 60)) ++
    (if micro = 0 then [] else '.' :: filled '0' 6 micro)

def zoneName (offset : Int) : List Char :=
  ['U', 'T', 'C'] ++ if offset = 0 then [] else offsetText [':'] offset

def timeText (moment : Moment) : List Char :=
  clockText [moment.hour, moment.minute, moment.second] ++
    (if moment.micro = 0 then [] else '.' :: filled '0' 6 moment.micro) ++
    (moment.offset.map (offsetText [':'])).getD []

/-- The ISO 8601 text of a moment, with a separator between date and time. -/
def textWith (separator : Char) (moment : Moment) : String :=
  String.ofList (match moment.kind with
    | .date => moment.dateText
    | .time => moment.timeText
    | .dateTime => moment.dateText ++ separator :: moment.timeText)

def iso (moment : Moment) : String := moment.textWith 'T'

/-! Order. -/

def yearDay (moment : Moment) : Nat := daysBefore moment.year moment.month + moment.day

def dayNumber (moment : Moment) : Nat :=
  let before := moment.year - 1
  before * 365 + before / 4 - before / 100 + before / 400 + moment.yearDay

/-- The millionths of a second from the first day on, in universal time when the distance to it is known. -/
def instant (moment : Moment) : Int :=
  let clock := moment.hour * 3600 + moment.minute * 60 + moment.second
  (moment.dayNumber * 86400 + clock) * 1000000 + moment.micro - moment.offset.getD 0

def ordered (first second : Moment) : Bool :=
  first.kind == second.kind && first.offset.isSome == second.offset.isSome

/-- Whether two moments are the same; those without an order never are. -/
def same (first second : Moment) : Bool := ordered first second && first.instant == second.instant

end Moment

end DataGrid
