import DataGrid.Proofs.LowerCase

/-! Regular expressions as they are typed: characters, classes, escapes, anchors, groups, alternatives and repetitions. A
pattern is scanned for tokens, and the tokens are parsed. Only the scanner looks at characters, so a pattern in lower
case is read as the expression of the pattern in which each leaf is in lower case. -/

namespace DataGrid

open Text

/-- The classes of characters that have an escape of their own. -/
inductive CharClass where
  | digit | blank | word
  deriving DecidableEq, Repr

namespace Regex

/-- What a class in brackets lists; an escape in capitals stands for the characters outside its class. -/
inductive Member where
  | char (c : Char)
  | range (low high : Char)
  | escape (kind : CharClass) (outside : Bool)
  deriving DecidableEq, Repr

/-- What is asked of one place of a text. -/
inductive Leaf where
  | any
  | oneOf (outside : Bool) (members : List Member)
  | boundary (outside : Bool)
  | start
  | finish
  deriving DecidableEq, Repr

def Leaf.letter (c : Char) : Leaf := .oneOf false [.char c]

inductive Token (α : Type) where
  | leaf (test : α)
  | opening
  | closing
  | bar
  | repeated (least : Nat) (most : Option Nat)
  deriving DecidableEq, Repr

end Regex

inductive Regex (α : Type) where
  | empty
  | leaf (test : α)
  | sequence (first second : Regex α)
  | either (first second : Regex α)
  | repeated (least : Nat) (most : Option Nat) (inner : Regex α)
  deriving DecidableEq, Repr

namespace Regex

section Parsing

variable {α β : Type}

def map (change : α → β) : Regex α → Regex β
  | empty => empty
  | leaf test => leaf (change test)
  | sequence first second => sequence (first.map change) (second.map change)
  | either first second => either (first.map change) (second.map change)
  | repeated least most inner => repeated least most (inner.map change)

def Token.map (change : α → β) : Token α → Token β
  | leaf test => leaf (change test)
  | opening => opening
  | closing => closing
  | bar => bar
  | repeated least most => repeated least most

/-- An expression under way: the alternatives before it, and the one that is read, its last part apart since a
repetition may follow. -/
structure Branch (α : Type) where
  others : Option (Regex α) := none
  before : Regex α := .empty
  last : Option (Regex α) := none

namespace Branch

def current (branch : Branch α) : Regex α :=
  match branch.last with
  | none => branch.before
  | some last => .sequence branch.before last

def value (branch : Branch α) : Regex α :=
  match branch.others with
  | none => branch.current
  | some others => .either others branch.current

def push (branch : Branch α) (part : Regex α) : Branch α := { branch with before := branch.current, last := some part }

def alternative (branch : Branch α) : Branch α := { others := some branch.value }

def repeat? (branch : Branch α) (least : Nat) (most : Option Nat) : Option (Branch α) :=
  branch.last.map fun last => { branch with last := some (.repeated least most last) }

def map (change : α → β) (branch : Branch α) : Branch β where
  others := branch.others.map (Regex.map change)
  before := branch.before.map change
  last := branch.last.map (Regex.map change)

end Branch

/-- Reads tokens on in a branch, with the branches of the groups around it. -/
def parseFrom : Branch α → List (Branch α) → List (Token α) → Option (Regex α)
  | branch, [], [] => some branch.value
  | _, _ :: _, [] => none
  | branch, outer, .leaf test :: rest => parseFrom (branch.push (.leaf test)) outer rest
  | branch, outer, .opening :: rest => parseFrom {} (branch :: outer) rest
  | _, [], .closing :: _ => none
  | branch, parent :: outer, .closing :: rest => parseFrom (parent.push branch.value) outer rest
  | branch, outer, .bar :: rest => parseFrom branch.alternative outer rest
  | branch, outer, .repeated least most :: rest =>
    match branch.repeat? least most with
    | none => none
    | some branch => parseFrom branch outer rest

def parse (tokens : List (Token α)) : Option (Regex α) := parseFrom {} [] tokens

namespace Branch

variable (change : α → β) (branch : Branch α)

@[simp] theorem value_map : (branch.map change).value = branch.value.map change := by
  obtain ⟨others, before, last⟩ := branch
  cases others <;> cases last <;> rfl

@[simp] theorem push_map (part : Regex α) :
    (branch.map change).push (part.map change) = (branch.push part).map change := by
  obtain ⟨others, before, last⟩ := branch
  cases last <;> rfl

@[simp] theorem alternative_map : (branch.map change).alternative = branch.alternative.map change := by
  rw [alternative, value_map]
  rfl

@[simp] theorem repeat_map (least : Nat) (most : Option Nat) :
    (branch.map change).repeat? least most = (branch.repeat? least most).map (Branch.map change) := by
  obtain ⟨others, before, last⟩ := branch
  cases last <;> rfl

end Branch

/-- Parsing does not look at leaves. -/
theorem parseFrom_map (change : α → β) (branch : Branch α) (outer : List (Branch α)) (tokens : List (Token α)) :
    parseFrom (branch.map change) (outer.map (Branch.map change)) (tokens.map (Token.map change)) =
      (parseFrom branch outer tokens).map (Regex.map change) := by
  induction tokens generalizing branch outer with
  | nil => cases outer <;> simp [parseFrom]
  | cons token rest ih =>
    rw [List.map_cons]
    cases token with
    | leaf test =>
      simp only [Token.map, parseFrom, ← ih, ← Branch.push_map, Regex.map]
    | opening => simpa [parseFrom, Token.map, Branch.map, Regex.map] using ih {} (branch :: outer)
    | closing =>
      cases outer with
      | nil => simp [parseFrom, Token.map]
      | cons parent outer => simpa [parseFrom, Token.map] using ih (parent.push branch.value) outer
    | bar => simpa [parseFrom, Token.map] using ih branch.alternative outer
    | repeated least most =>
      cases made : branch.repeat? least most with
      | none => simp [parseFrom, Token.map, made]
      | some grown => simpa [parseFrom, Token.map, made] using ih grown outer

theorem parse_map (change : α → β) (tokens : List (Token α)) :
    parse (tokens.map (Token.map change)) = (parse tokens).map (Regex.map change) :=
  parseFrom_map change {} [] tokens

end Parsing

section Scanning

/-- The characters that a pattern gives a meaning of their own. -/
inductive Sign where
  | escape | opening | closing | bar | star | plus | mark | dot | caret | dollar | bracket | bracketEnd | dash
  | brace | braceEnd | comma
  | digit (value : Nat)
  deriving DecidableEq, Repr

def signs : List (Char × Sign) :=
  [('\\', .escape), ('(', .opening), (')', .closing), ('|', .bar), ('*', .star), ('+', .plus), ('?', .mark),
    ('.', .dot), ('^', .caret), ('$', .dollar), ('[', .bracket), (']', .bracketEnd), ('-', .dash),
    ('\x7b', .brace), ('\x7d', .braceEnd), (',', .comma), ('0', .digit 0), ('1', .digit 1), ('2', .digit 2),
    ('3', .digit 3), ('4', .digit 4), ('5', .digit 5), ('6', .digit 6), ('7', .digit 7), ('8', .digit 8), ('9', .digit 9)]

def signOf (c : Char) : Option Sign := signs.lookup c

inductive Escape where
  | member (content : Member)
  | boundary (outside : Bool)
  deriving DecidableEq, Repr

/-- What a character stands for behind a backslash: itself unless it is a letter or a digit, of which only those of the
classes and of the word boundary are read. -/
def escapeOf (c : Char) : Option Escape :=
  match c with
  | 'd' => some (.member (.escape .digit false))
  | 'D' => some (.member (.escape .digit true))
  | 's' => some (.member (.escape .blank false))
  | 'S' => some (.member (.escape .blank true))
  | 'w' => some (.member (.escape .word false))
  | 'W' => some (.member (.escape .word true))
  | 'b' => some (.boundary false)
  | 'B' => some (.boundary true)
  | _ => if c.isAlphanum then none else some (.member (.char c))

/-- What the scanner has read of the token that is under way. -/
inductive State where
  | plain
  | repeated
  | escaped
  | least (count : Option Nat)
  | most (least : Nat) (count : Option Nat)
  | bracket
  | inside (first outside : Bool) (members : List Member)
  | held (outside : Bool) (members : List Member) (c : Char)
  | range (outside : Bool) (members : List Member) (low : Char)
  | insideEscaped (outside : Bool) (members : List Member)
  deriving DecidableEq, Repr

abbrev Step : Type := State × Option (Token Leaf)

def plainStep (c : Char) : Step :=
  match signOf c with
  | some .escape => (.escaped, none)
  | some .opening => (.plain, some .opening)
  | some .closing => (.plain, some .closing)
  | some .bar => (.plain, some .bar)
  | some .star => (.repeated, some (.repeated 0 none))
  | some .plus => (.repeated, some (.repeated 1 none))
  | some .mark => (.repeated, some (.repeated 0 (some 1)))
  | some .dot => (.plain, some (.leaf .any))
  | some .caret => (.plain, some (.leaf .start))
  | some .dollar => (.plain, some (.leaf .finish))
  | some .bracket => (.bracket, none)
  | some .brace => (.least none, none)
  | _ => (.plain, some (.leaf (.letter c)))

/-- Reads a class on; a closing bracket that comes first stands for itself. -/
def insideStep (first outside : Bool) (members : List Member) (c : Char) : Option Step :=
  match signOf c, first with
  | some .bracketEnd, false => some (.plain, some (.leaf (.oneOf outside members)))
  | some .escape, _ => some (.insideEscaped outside members, none)
  | some .bracket, _ => none
  | _, _ => some (.held outside members c, none)

/-- Reads one character. A mark behind a repetition asks for the shortest match, so it does not count for whether there
is one. -/
def step : State → Char → Option Step
  | .plain, c => some (plainStep c)
  | .repeated, c =>
    match signOf c with
    | some .mark => some (.plain, none)
    | some .star | some .plus | some .brace => none
    | _ => some (plainStep c)
  | .escaped, c =>
    match escapeOf c with
    | some (.member content) => some (.plain, some (.leaf (.oneOf false [content])))
    | some (.boundary outside) => some (.plain, some (.leaf (.boundary outside)))
    | none => none
  | .least count, c =>
    match signOf c, count with
    | some (.digit value), _ => some (.least (some (10 * count.getD 0 + value)), none)
    | some .comma, _ => some (.most (count.getD 0) none, none)
    | some .braceEnd, some count => some (.repeated, some (.repeated count (some count)))
    | _, _ => none
  | .most least count, c =>
    match signOf c with
    | some (.digit value) => some (.most least (some (10 * count.getD 0 + value)), none)
    | some .braceEnd => some (.repeated, some (.repeated least count))
    | _ => none
  | .bracket, c =>
    match signOf c with
    | some .caret => some (.inside true true [], none)
    | _ => insideStep true false [] c
  | .inside first outside members, c => insideStep first outside members c
  | .held outside members low, c =>
    match signOf c with
    | some .dash => some (.range outside members low, none)
    | _ => insideStep false outside (members ++ [.char low]) c
  | .range outside members low, c =>
    match signOf c with
    | some .bracketEnd => some (.plain, some (.leaf (.oneOf outside (members ++ [.char low, .char '-']))))
    | some .escape | some .bracket => none
    | _ => some (.inside false outside (members ++ [.range low c]), none)
  | .insideEscaped outside members, c =>
    match escapeOf c with
    | some (.member (.char c)) => some (.held outside members c, none)
    | some (.member content) => some (.inside false outside (members ++ [content]), none)
    | _ => none

def State.final : State → Bool
  | .plain | .repeated => true
  | _ => false

def scanFrom (state : State) : List Char → Option (List (Token Leaf))
  | [] => if state.final then some [] else none
  | c :: rest => do
    let (next, token) ← step state c
    return token.toList ++ (← scanFrom next rest)

def read (pattern : List Char) : Option (Regex Leaf) := do parse (← scanFrom .plain pattern)

example : read "^a[^b-d]\x7b2,\x7d".toList =
    some (.sequence (.sequence (.sequence .empty (.leaf .start)) (.leaf (.letter 'a')))
      (.repeated 2 none (.leaf (.oneOf true [.range 'b' 'd'])))) := by decide

end Scanning

end Regex

end DataGrid
