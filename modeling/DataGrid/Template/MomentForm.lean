import DataGrid.Moment

/-!
Dates and times in the forms that a row template asks for. A sign is a percent sign, flags, a least
width, a variant and a letter; a sign without a meaning and all other text stay as they are.
-/

namespace DataGrid.Moment

def weekDay (moment : Moment) : Nat := moment.dayNumber % 7

def dayNames : List String :=
  ["Sunday", "Monday", "Tuesday", "Wednesday", "Thursday", "Friday", "Saturday"]

def monthNames : List String :=
  ["January", "February", "March", "April", "May", "June", "July", "August", "September", "October",
    "November", "December"]

/-- The year and week of the week that a day belongs to; a week belongs to the year of its Thursday. -/
def isoWeek (moment : Moment) : Nat × Nat :=
  let day := (moment.weekDay + 6) % 7
  let thursday : Int := moment.yearDay + 3 - day
  let length (year : Nat) : Nat := if isLeap year then 366 else 365
  if thursday < 1 then (moment.year - 1, ((thursday + length (moment.year - 1) - 1) / 7 + 1).toNat)
  else if (length moment.year : Int) < thursday then (moment.year + 1, 1)
  else (moment.year, ((thursday - 1) / 7 + 1).toNat)

def hour12 (moment : Moment) : Nat := (moment.hour + 11) % 12 + 1

def halfDay (moment : Moment) : List Char := if moment.hour < 12 then ['A', 'M'] else ['P', 'M']

def dayName (moment : Moment) : List Char := (dayNames.getD moment.weekDay "").toList

def monthName (moment : Moment) : List Char := (monthNames.getD (moment.month - 1) "").toList

def shortDate (moment : Moment) : List Char :=
  ['/'].intercalate ([moment.month, moment.day, moment.year % 100].map (filled '0' 2))

def clockSeconds (moment : Moment) : Int :=
  (moment.dayNumber - 719163 : Int) * 86400 + (moment.hour * 3600 + moment.minute * 60 + moment.second : Nat)

end DataGrid.Moment

namespace DataGrid.Template

inductive SignText where
  | name (content : List Char)
  | half (content : List Char)
  /-- A number with the digits it usually has; `spaced` when spaces fill it up. -/
  | number (digits value : Nat) (spaced : Bool)
  | plain (content : List Char)

structure Sign where
  /-- What fills up a number: `_`, `0`, or nothing for `-`. -/
  fill : Option Char := none
  capitals : Bool := false
  otherCase : Bool := false
  width : Nat := 0
  variant : Option Char := none

namespace SignText

def zeroed (digits value : Nat) : SignText := .number digits value false

def ofLetter (moment : Moment) (letter : Char) : Option (SignText × List Char) :=
  let clock := Moment.clockText [moment.hour, moment.minute, moment.second]
  let date := Nat.toDigits 10 moment.year ++ '-' :: filled '0' 2 moment.month ++ '-' :: filled '0' 2 moment.day
  let monday := (moment.weekDay + 6) % 7
  match letter with
  | 'a' => some (.name (moment.dayName.take 3), [])
  | 'A' => some (.name moment.dayName, [])
  | 'b' | 'h' => some (.name (moment.monthName.take 3), ['O'])
  | 'B' => some (.name moment.monthName, ['O'])
  | 'c' =>
    some (.plain (moment.dayName.take 3 ++ ' ' :: moment.monthName.take 3 ++ ' ' :: filled ' ' 2 moment.day ++
      ' ' :: clock ++ ' ' :: Nat.toDigits 10 moment.year), ['E'])
  | 'C' => some (zeroed 1 (moment.year / 100), ['E', 'O'])
  | 'd' => some (zeroed 2 moment.day, ['O'])
  | 'D' => some (.plain moment.shortDate, [])
  | 'e' => some (.number 2 moment.day true, ['O'])
  | 'F' => some (.plain date, [])
  | 'g' => some (zeroed 2 (moment.isoWeek.1 % 100), ['O'])
  | 'G' => some (zeroed 1 moment.isoWeek.1, ['O'])
  | 'H' => some (zeroed 2 moment.hour, ['O'])
  | 'I' => some (zeroed 2 moment.hour12, ['O'])
  | 'j' => some (zeroed 3 moment.yearDay, ['O'])
  | 'k' => some (.number 2 moment.hour true, ['O'])
  | 'l' => some (.number 2 moment.hour12 true, ['O'])
  | 'm' => some (zeroed 2 moment.month, ['O'])
  | 'M' => some (zeroed 2 moment.minute, ['O'])
  | 'n' => some (.plain ['\n'], ['E', 'O'])
  | 'p' => some (.half moment.halfDay, ['E', 'O'])
  | 'P' => some (.half (moment.halfDay.map Char.toLower), ['E', 'O'])
  | 'r' =>
    some (.plain (Moment.clockText [moment.hour12, moment.minute, moment.second] ++ ' ' :: moment.halfDay), ['E', 'O'])
  | 'R' => some (.plain (Moment.clockText [moment.hour, moment.minute]), ['E', 'O'])
  | 's' => some (.plain (intText moment.clockSeconds).toList, ['E', 'O'])
  | 'S' => some (zeroed 2 moment.second, ['O'])
  | 't' => some (.plain ['\t'], ['E', 'O'])
  | 'T' => some (.plain clock, ['E', 'O'])
  | 'u' => some (zeroed 1 (monday + 1), ['E', 'O'])
  | 'U' => some (zeroed 2 ((moment.yearDay + 6 - moment.weekDay) / 7), ['O'])
  | 'V' => some (zeroed 2 moment.isoWeek.2, ['O'])
  | 'w' => some (zeroed 1 moment.weekDay, ['O'])
  | 'W' => some (zeroed 2 ((moment.yearDay + 6 - monday) / 7), ['O'])
  | 'x' => some (.plain moment.shortDate, ['E'])
  | 'X' => some (.plain clock, ['E'])
  | 'y' => some (zeroed 2 (moment.year % 100), ['E', 'O'])
  | 'Y' => some (zeroed 1 moment.year, ['E'])
  | 'z' | 'Z' => some (.plain [], ['E', 'O'])
  | '%' => some (.plain ['%'], ['E', 'O'])
  | _ => none

end SignText

namespace Sign

def padded (sign : Sign) (content : List Char) : List Char :=
  List.replicate (sign.width - content.length) (if sign.fill = some '0' then '0' else ' ') ++ content

def recased (sign : Sign) (content : List Char) : List Char :=
  if sign.capitals then content.map Char.toUpper else content

def numberText (sign : Sign) (digits value : Nat) (spaced : Bool) : List Char :=
  let least := max digits sign.width
  match sign.fill, spaced with
  | some '-', _ => sign.padded (Nat.toDigits 10 value)
  | some '_', _ | none, true => filled ' ' least value
  | _, _ => filled '0' least value

def apply (sign : Sign) : SignText → List Char
  | .name content => sign.padded (if sign.otherCase then content.map Char.toUpper else sign.recased content)
  | .half content =>
    let small := sign.otherCase || content.all Char.isLower
    sign.padded (if small then content.map Char.toLower else content)
  | .number digits value spaced => sign.numberText digits value spaced
  | .plain content => sign.padded (sign.recased content)

def readFlags (sign : Sign) : List Char → Sign × List Char
  | [] => (sign, [])
  | c :: rest =>
    if c = '_' || c = '-' || c = '0' then readFlags { sign with fill := some c } rest
    else if c = '^' then readFlags { sign with capitals := true } rest
    else if c = '#' then readFlags { sign with otherCase := true } rest
    else (sign, c :: rest)

/-- Reads a sign up to its letter; widths beyond the limit count as the limit. -/
def read (limit : Nat) (chars : List Char) : Sign × List Char :=
  let (sign, rest) := readFlags {} chars
  let digits := rest.takeWhile Char.isDigit
  let sign := { sign with width := min (digitsNumber digits) limit }
  match rest.drop digits.length with
  | 'E' :: rest => ({ sign with variant := some 'E' }, rest)
  | 'O' :: rest => ({ sign with variant := some 'O' }, rest)
  | rest => (sign, rest)

end Sign

/-- Puts in the parts of a moment that no sign with flags can ask for: the part of a second and the zone. -/
def withZone (moment : Moment) : List Char → List Char
  | [] => []
  | '%' :: letter :: rest =>
    let content := match letter with
      | 'f' => filled '0' 6 moment.micro
      | 'z' => (moment.offset.map (Moment.offsetText [])).getD []
      | 'Z' => (moment.offset.map Moment.zoneName).getD []
      | letter => ['%', letter]
    content ++ withZone moment rest
  | c :: rest => c :: withZone moment rest

/-- Fills in all other signs; `fuel` bounds what is left. -/
def fillSigns (moment : Moment) (limit : Nat) : (fuel : Nat) → List Char → List Char
  | 0, _ => []
  | _, [] => []
  | fuel + 1, c :: rest =>
    if c ≠ '%' then c :: fillSigns moment limit fuel rest
    else
      let (sign, after) := Sign.read limit rest
      let unknown (rest after : List Char) : List Char :=
        sign.padded (sign.recased ('%' :: rest.take (rest.length - after.length)))
      match after with
      | [] => unknown rest []
      | letter :: after =>
        let found := (SignText.ofLetter moment letter).filter fun (_, variants) =>
          (sign.variant.map variants.contains).getD true
        match found with
        | some (text, _) =>
          let absent := letter = 'z' || letter = 'Z' && sign.fill = some '-'
          let text := if absent then [] else sign.apply text
          text ++ fillSigns moment limit fuel after
        | none => unknown rest after ++ fillSigns moment limit fuel after

/-- The length from which on a text is given up: the first of the lengths 1024, 2048 and so on that is as
large as 256 times the form. -/
def textLimit (size : Nat) : Nat := (List.range 64).foldl (fun limit _ => if limit < 256 * size then 2 * limit else limit) 1024

def formatMoment (moment : Moment) (form : List Char) : List Char :=
  let form := withZone moment form
  let limit := textLimit form.length
  let content := fillSigns moment limit (form.length + 1) form
  if limit ≤ content.length then [] else content

end DataGrid.Template
