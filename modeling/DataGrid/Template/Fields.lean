import DataGrid.Template.DecimalForm
import DataGrid.Template.MomentForm
import DataGrid.Template.Part

/-!
Row templates. A place between braces names a field of the row and may go on into it, by position, key
or attribute; it may ask for the quoted form, and after a colon for a width, a precision or a form. What
stands after the colon may hold places of its own. A doubled brace is a plain one.
-/

namespace DataGrid.Template

structure Field where
  name : List Char
  conversion : Option Char := none
  spec : List Char := []

/-- A stretch of a template: plain characters, then perhaps a place, and what follows. -/
structure Stretch where
  chars : List Char
  field : Option Field
  rest : List Char

def isBrace (c : Char) : Bool := c = '\x7b' || c = '\x7d'

/-- The name of a place, the character that ends it, and what follows. A bracket hides what it holds. -/
def readName (bracket : Bool) : List Char → Except Error (List Char × Option Char × List Char)
  | [] => .ok ([], none, [])
  | c :: rest =>
    if bracket then (readName (c ≠ ']') rest).map fun (name, stop, rest) => (c :: name, stop, rest)
    else if c = '\x7b' then .error (.badValue "unexpected '\x7b' in field name")
    else if c = '\x7d' || c = ':' || c = '!' then .ok ([], some c, rest)
    else (readName (c = '[') rest).map fun (name, stop, rest) => (c :: name, stop, rest)

def readSpec : (depth : Nat) → List Char → Except Error (List Char × List Char)
  | _, [] => .error (.badValue "unmatched '\x7b' in format spec")
  | depth, c :: rest =>
    if c = '\x7b' then (readSpec (depth + 1) rest).map fun (spec, rest) => (c :: spec, rest)
    else if c = '\x7d' then
      match depth with
      | 0 => .ok ([], rest)
      | depth + 1 => (readSpec depth rest).map fun (spec, rest) => (c :: spec, rest)
    else (readSpec depth rest).map fun (spec, rest) => (c :: spec, rest)

def readField (chars : List Char) : Except Error (Field × List Char) := do
  let (name, stop, rest) ← readName false chars
  match stop with
  | some '\x7d' => return (⟨name, none, []⟩, rest)
  | some ':' =>
    let (spec, rest) ← readSpec 0 rest
    return (⟨name, none, spec⟩, rest)
  | some _ =>
    match rest with
    | [] => throw (.badValue "end of string while looking for conversion specifier")
    | letter :: '\x7d' :: rest => return (⟨name, some letter, []⟩, rest)
    | [letter] =>
      let (spec, rest) ← readSpec 0 []
      return (⟨name, some letter, spec⟩, rest)
    | letter :: c :: rest =>
      if c ≠ ':' then throw (.badValue "expected ':' after conversion specifier")
      let (spec, rest) ← readSpec 0 rest
      return (⟨name, some letter, spec⟩, rest)
  | none => throw (.badValue "expected '\x7d' before end of string")

def readStretch (chars : List Char) : Except Error Stretch := do
  let plain := chars.takeWhile fun c => !isBrace c
  match chars.drop plain.length with
  | [] => return ⟨plain, none, []⟩
  | c :: rest =>
    match rest with
    | [] => throw (.badValue ("Single '" ++ String.ofList [c] ++ "' encountered in format string"))
    | next :: more =>
      if next = c then return ⟨plain ++ [c], none, more⟩
      if c = '\x7d' then throw (.badValue "Single '\x7d' encountered in format string")
      let (field, rest) ← readField rest
      return ⟨plain, some field, rest⟩

def position? (name : List Char) : Except Error (Option Nat) :=
  if name.isEmpty || !name.all fun c => (Text.digitValue? c).isSome then .ok none
  else
    let n := name.foldl (fun n c => 10 * n + (Text.digitValue? c).getD 0) 0
    if Spec.largest < n then .error (.badValue "Too many decimal digits in format string") else .ok (some n)

def itemOf (part : Part) (name : List Char) : Except Error Part := do
  match ← position? name with
  | some n => part.at n
  | none => part.keyed (String.ofList name)

def emptyName : Error := .badValue "Empty attribute in format string"

/-- Goes on into a part; `fuel` bounds what is left of the name. -/
def goInto : (fuel : Nat) → Part → List Char → Except Error Part
  | 0, part, _ => .ok part
  | _ + 1, part, [] => .ok part
  | fuel + 1, part, c :: rest => do
    if c = '.' then
      let name := rest.takeWhile fun c => c ≠ '.' && c ≠ '['
      if name.isEmpty then throw emptyName
      goInto fuel (← part.named (String.ofList name)) (rest.drop name.length)
    else if c = '[' then
      let name := rest.takeWhile (· ≠ ']')
      if name.length = rest.length then throw (.badValue "Missing ']' in format string")
      if name.isEmpty then throw emptyName
      goInto fuel (← itemOf part name) (rest.drop (name.length + 1))
    else throw (.badValue "Only '.' or '[' may follow ']' in format field specifier")

/-- What a name stands for. Places without a name, or with a number for one, are refused. -/
def lookUp (row : List (String × Value)) (name : List Char) : Except Error Part := do
  let first := name.takeWhile fun c => c ≠ '.' && c ≠ '['
  if first.isEmpty || (← position? first).isSome then
    throw (.badValue "Format string contains positional fields")
  let value ← (Value.object row).itemNamed (String.ofList first)
  goInto name.length (.value value) (name.drop first.length)

def convert (letter : Char) (part : Part) : Except Error Value :=
  match letter with
  | 's' => .ok (.text part.display)
  | 'r' => .ok (.text part.shown)
  | 'a' =>
    let escaped := part.shown.toList.flatMap fun c => if c.toNat < 0x80 then [c] else numberEscape c
    .ok (.text (String.ofList escaped))
  | c =>
    let shown := if 32 < c.toNat && c.toNat < 127 then String.ofList [c]
      else "\\x" ++ String.ofList (Nat.toDigits 16 c.toNat)
    .error (.badValue ("Unknown conversion specifier " ++ shown))

def formatText (chars : List Char) (content : List Char) : Except Error (List Char) := do
  let spec ← Spec.parse "str" (some 's') '<' chars
  match spec.letter with
  | some 's' | none => pure ()
  | some c => throw (Spec.unknownLetter "str" c)
  let refused (what : String) : Error := .badValue (what ++ " not allowed in string format specifier")
  if spec.sign = some ' ' then throw (refused "Space")
  if spec.sign.isSome then throw (refused "Sign")
  if spec.dropsNegativeZero then throw (refused "Negative zero coercion (z)")
  if spec.alternate then throw (refused "Alternate form (#)")
  if spec.align = '=' then throw (refused "'=' alignment")
  spec.checkWidth
  return spec.pad spec.align (match spec.precision with
    | some n => content.take n
    | none => content)

/-- A value as its place asks for. Values without forms of their own take no wishes. -/
def formatValue (chars : List Char) (value : Value) : Except Error (List Char) :=
  if chars.isEmpty then .ok value.display.toList
  else
    match value with
    | .text s => formatText chars s.toList
    | .int n => do formatInt "int" (← Spec.parse "int" (some 'd') '>' chars) n
    | .bool flag => do formatInt "bool" (← Spec.parse "bool" (some 'd') '>' chars) (if flag then 1 else 0)
    | .float x => do formatDouble "float" (← Spec.parse "float" none '>' chars) x
    | .decimal d => formatDecimal chars d
    | .moment point => .ok (formatMoment point chars)
    | _ => .error .wrongType

def formatPart (chars : List Char) (part : Part) : Except Error (List Char) :=
  match part with
  | .value value => formatValue chars value
  | part => if chars.isEmpty then .ok part.display.toList else .error .wrongType

/-- Fills the places of a template; `inner` fills those that stand after a colon, and `fuel` bounds what
is left. -/
def fillWith (row : List (String × Value)) (inner : List Char → Except Error (List Char)) :
    (fuel : Nat) → List Char → Except Error (List Char)
  | 0, _ => .ok []
  | fuel + 1, chars => do
    if chars.isEmpty then return []
    let stretch ← readStretch chars
    let filled ← match stretch.field with
      | none => pure []
      | some field => do
        let found ← lookUp row field.name
        let part ← match field.conversion with
          | some letter => (convert letter found).map .value
          | none => .ok found
        let spec ← if field.spec.contains '\x7b' then inner field.spec else pure field.spec
        formatPart spec part
    return stretch.chars ++ filled ++ (← fillWith row inner fuel stretch.rest)

/-- Fills the places of a template whose places may be nested to a depth. -/
def fillWithin (row : List (String × Value)) : (depth : Nat) → List Char → Except Error (List Char)
  | 0, _ => .error (.badValue "Max string recursion exceeded")
  | depth + 1, chars => fillWith row (fillWithin row depth) (chars.length + 1) chars

def fillRow (template : String) (row : List (String × Value)) : Except Error String :=
  return String.ofList (← fillWithin row 2 template.toList)

end DataGrid.Template
