import DataGrid.Text.CaseTable

/-!
Lower case of a text. Each character has its simple lower-case mapping, except two: the dotted
capital I becomes two characters, and a capital sigma at the end of a word becomes the final form.
-/

namespace DataGrid.Text

def inRanges (ranges : List (Nat × Nat)) (n : Nat) : Bool :=
  ranges.any fun (low, high) => low ≤ n && n ≤ high

def lowerChar (c : Char) : Char :=
  if c.toNat < 0x80 then (if 'A' ≤ c ∧ c ≤ 'Z' then Char.ofNat (c.toNat + 0x20) else c)
  else
    let n := c.toNat
    match lowerRuns.find? fun (first, last, step, _) => first ≤ n && n ≤ last && (n - first) % step == 0 with
    | some (_, _, _, offset) => Char.ofNat (Int.ofNat n + offset).toNat
    | none => c

def isIgnorable (c : Char) : Bool := inRanges ignorableRanges c.toNat
def isCased (c : Char) : Bool := inRanges casedRanges c.toNat

/-- Whether the nearest character that is not case-ignorable is a cased one. -/
def meetsCased (chars : List Char) : Bool :=
  match chars.dropWhile isIgnorable with
  | [] => false
  | c :: _ => isCased c

/-- Lower case of a text, with the characters before it, nearest first, in `before`. -/
def lowerFrom (before : List Char) : List Char → List Char
  | [] => []
  | c :: rest =>
    let here :=
      if c = 'Σ' then [if meetsCased before && !meetsCased rest then 'ς' else 'σ']
      else if c = 'İ' then ['i', Char.ofNat 0x307]
      else [lowerChar c]
    here ++ lowerFrom (c :: before) rest

def lower (chars : List Char) : List Char := lowerFrom [] chars

def lowerString (s : String) : String := String.ofList (lower s.toList)

end DataGrid.Text
