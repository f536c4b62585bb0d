import DataGrid.Proofs.CountedText
import DataGrid.Proofs.RegexLowering
import DataGrid.Sql.Adapter

/-! What a regular expression finds in a text, exactly or ignoring case, and what becomes of it when pattern and text are
put in lower case. Escapes in capitals lose their meaning on the way: `\D` then asks for what `\d` asks for. Every other
pattern finds in lower case what it finds when case is ignored, as long as its ranges keep what they stand for. -/

namespace DataGrid

open Text

/-- The characters of each class. Lower case does not change the class of a character, but for the Kelvin sign, whose
lower case is a letter of the basic alphabet. -/
structure CharClasses where
  holds : CharClass → Char → Bool
  lower : ∀ kind c, c ≠ kelvin → holds kind (lowerChar c) = holds kind c

namespace CharClasses

private def basicHolds : CharClass → Char → Bool
  | .digit, c => c.isDigit
  | .blank, c => c.isWhitespace
  | .word, c => c.isAlphanum || c = '_'

private theorem basicHolds_foreign (kind : CharClass) {c : Char} (foreign : ¬ Basic c) : basicHolds kind c = false := by
  rw [← Bool.not_eq_true]
  intro held
  cases kind with
  | digit => exact foreign (.of_alphanum (by simp [Char.isAlphanum, show c.isDigit = true from held]))
  | blank =>
    simp only [basicHolds, Char.isWhitespace, Bool.or_eq_true, decide_eq_true_eq] at held
    rcases held with ((rfl | rfl) | rfl) | rfl <;> exact foreign (by decide)
  | word =>
    simp only [basicHolds, Bool.or_eq_true, decide_eq_true_eq] at held
    rcases held with alphanum | rfl
    · exact foreign (.of_alphanum alphanum)
    · exact foreign (by decide)

/-- The classes of the basic alphabet. -/
def basic : CharClasses where
  holds := basicHolds
  lower kind c other := by
    by_cases own : Basic c
    · cases kind <;> exact own.listed (by decide +kernel)
    · rw [basicHolds_foreign kind own, basicHolds_foreign kind (lowerChar_foreign own other)]

end CharClasses

namespace Regex

section Spans

variable {α β : Type}

/-- A relation between places taken a number of times. -/
def Times (relation : Nat → Nat → Prop) : Nat → Nat → Nat → Prop
  | 0, first, last => first = last
  | count + 1, first, last => ∃ middle, relation first middle ∧ Times relation count middle last

/-- Whether an expression stands for the part of a text between two places. -/
def Spans (asks : α → Nat → Nat → Prop) : Regex α → Nat → Nat → Prop
  | empty, first, last => first = last
  | leaf test, first, last => asks test first last
  | sequence one other, first, last => ∃ middle, Spans asks one first middle ∧ Spans asks other middle last
  | either one other, first, last => Spans asks one first last ∨ Spans asks other first last
  | repeated least most inner, first, last =>
    ∃ count, least ≤ count ∧ (∀ bound ∈ most, count ≤ bound) ∧ Times (Spans asks inner) count first last

def leaves : Regex α → List α
  | empty => []
  | leaf test => [test]
  | sequence one other | either one other => one.leaves ++ other.leaves
  | repeated _ _ inner => inner.leaves

theorem spans_map {asks : α → Nat → Nat → Prop} {other : β → Nat → Nat → Prop} {change : α → β} {regex : Regex α}
    (agree : ∀ test ∈ regex.leaves, other (change test) = asks test) :
    Spans other (regex.map change) = Spans asks regex := by
  induction regex with
  | empty => rfl
  | leaf test => exact agree test (List.mem_singleton_self test)
  | sequence one two first second | either one two first second =>
    obtain ⟨here, there⟩ := List.forall_mem_append.mp agree
    funext place last
    simp only [map, Spans, first here, second there]
  | repeated least most inner ih =>
    funext place last
    simp only [map, Spans, ih agree]

theorem map_eq_self {change : α → α} {regex : Regex α} (fixed : ∀ test ∈ regex.leaves, change test = test) :
    regex.map change = regex := by
  induction regex with
  | empty => rfl
  | leaf test => exact congrArg leaf (fixed test (List.mem_singleton_self test))
  | sequence one two first second | either one two first second =>
    obtain ⟨here, there⟩ := List.forall_mem_append.mp fixed
    rw [map, first here, second there]
  | repeated least most inner ih => rw [map, ih fixed]

end Spans

namespace Member

/-- Whether a member of a class lists a character. Two characters count as the same when their views are. -/
def Holds (classes : CharClasses) (view : Char → Char) : Member → Char → Prop
  | char own, c => view c = view own
  | range low high, c => ∃ d, view d = view c ∧ low ≤ d ∧ d ≤ high
  | escape kind outside, c => (classes.holds kind c = true ↔ outside = false)

/-- A range keeps what it stands for: in lower case it lists the lower case of what it listed. -/
def Faithful : Member → Prop
  | range low high => ∀ c, (lowerChar low ≤ lowerChar c ∧ lowerChar c ≤ lowerChar high) ↔
      ∃ d, lowerChar d = lowerChar c ∧ low ≤ d ∧ d ≤ high
  | _ => True

/-- The member without capitals for what stands outside a class. -/
def small : Member → Member
  | escape kind _ => escape kind false
  | member => member

theorem holds_lowered {classes : CharClasses} {member : Member} {c : Char} (faithful : member.Faithful)
    (other : c ≠ kelvin) :
    member.lowered.Holds classes id (lowerChar c) ↔ member.small.Holds classes lowerChar c := by
  cases member with
  | char own => rfl
  | range low high =>
    refine Iff.trans ?_ (faithful c)
    constructor
    · rintro ⟨d, rfl, within⟩
      exact within
    · exact fun within => ⟨lowerChar c, rfl, within⟩
  | escape kind outside => simp only [lowered, small, Holds, classes.lower kind c other]

/-- A range without characters that have a lower case of their own. -/
theorem faithful_settled {low high : Char} (ordered : low ≤ high)
    (settled : ∀ c, low ≤ c → c ≤ high → lowerChar c = c) : (range low high).Faithful := by
  intro c
  rw [settled low (Char.le_refl low) ordered, settled high ordered (Char.le_refl high)]
  constructor
  · rintro ⟨above, below⟩
    exact ⟨lowerChar c, settled _ above below, above, below⟩
  · rintro ⟨d, same, above, below⟩
    rw [← same, settled d above below]
    exact ⟨above, below⟩

theorem faithful_capitals {low high : Char} (first : 'A' ≤ low) (last : high ≤ 'Z') (ordered : low ≤ high) :
    (range low high).Faithful := by
  have moved {d : Char} (above : low ≤ d) (below : d ≤ high) : (lowerChar d).toNat = d.toNat + 0x20 :=
    lowerChar_capital (Char.le_trans first above) (Char.le_trans below last)
  have lowest := moved (Char.le_refl low) ordered
  have highest := moved ordered (Char.le_refl high)
  intro c
  constructor
  · rintro ⟨above, below⟩
    have low_le : (lowerChar low).toNat ≤ (lowerChar c).toNat := above
    have le_high : (lowerChar c).toNat ≤ (lowerChar high).toNat := below
    have bounded : high.toNat ≤ 0x5A := last
    have place : (Char.ofNat ((lowerChar c).toNat - 0x20)).toNat = (lowerChar c).toNat - 0x20 :=
      toNat_ofNat (by omega)
    have from_low : low ≤ Char.ofNat ((lowerChar c).toNat - 0x20) := by
      show low.toNat ≤ (Char.ofNat ((lowerChar c).toNat - 0x20)).toNat
      omega
    have to_high : Char.ofNat ((lowerChar c).toNat - 0x20) ≤ high := by
      show (Char.ofNat ((lowerChar c).toNat - 0x20)).toNat ≤ high.toNat
      omega
    refine ⟨_, ?_, from_low, to_high⟩
    have raised := moved from_low to_high
    rw [← Char.ofNat_toNat (lowerChar (Char.ofNat _)), raised, place, Nat.sub_add_cancel (by omega), Char.ofNat_toNat]
  · rintro ⟨d, same, above, below⟩
    have raised := moved above below
    rw [← same]
    have low_le : low.toNat ≤ d.toNat := above
    have le_high : d.toNat ≤ high.toNat := below
    refine ⟨?_, ?_⟩
    · show (lowerChar low).toNat ≤ (lowerChar d).toNat
      omega
    · show (lowerChar d).toNat ≤ (lowerChar high).toNat
      omega

end Member

namespace Leaf

variable {classes : CharClasses}

def isWord (classes : CharClasses) (c : Option Char) : Bool := c.any (classes.holds .word)

/-- Whether a word begins or ends at a place. -/
def Boundary (classes : CharClasses) (text : List Char) (place : Nat) : Prop :=
  isWord classes text[place]? ≠ isWord classes (if place = 0 then none else text[place - 1]?)

/-- What a leaf asks of the part of a text between two places. -/
def Asks (classes : CharClasses) (view : Char → Char) (text : List Char) : Leaf → Nat → Nat → Prop
  | any, first, last => last = first + 1 ∧ ∃ c, text[first]? = some c ∧ c ≠ '\n'
  | oneOf outside members, first, last =>
    last = first + 1 ∧ ∃ c, text[first]? = some c ∧ ((∃ member ∈ members, member.Holds classes view c) ↔ outside = false)
  | boundary outside, first, last => last = first ∧ (Boundary classes text first ↔ outside = false)
  | start, first, last => last = first ∧ first = 0
  | finish, first, last => last = first ∧ first = text.length

def Faithful : Leaf → Prop
  | oneOf _ members => ∀ member ∈ members, member.Faithful
  | _ => True

def small : Leaf → Leaf
  | oneOf outside members => oneOf outside (members.map Member.small)
  | boundary _ => boundary false
  | other => other

variable {text : List Char}

private theorem exists_lowered {holds other : Char → Prop} (agree : ∀ c ∈ text, holds (lowerChar c) ↔ other c)
    (place : Nat) :
    (∃ c, (text.map lowerChar)[place]? = some c ∧ holds c) ↔ ∃ c, text[place]? = some c ∧ other c := by
  rw [List.getElem?_map]
  cases found : text[place]? with
  | none => simp
  | some c => simpa using agree c (List.mem_of_getElem? found)

private theorem isWord_lowered (foldable : kelvin ∉ text) (place : Nat) :
    isWord classes (text.map lowerChar)[place]? = isWord classes text[place]? := by
  rw [List.getElem?_map]
  cases found : text[place]? with
  | none => rfl
  | some c =>
    refine classes.lower .word c ?_
    rintro rfl
    exact foldable (List.mem_of_getElem? found)

/-- In lower case a leaf asks for what its small form asks for when case is ignored. -/
theorem asks_lowered {leaf : Leaf} (faithful : leaf.Faithful) (foldable : kelvin ∉ text) :
    Asks classes id (text.map lowerChar) leaf.lowered = Asks classes lowerChar text leaf.small := by
  funext first last
  cases leaf with
  | any =>
    refine propext (and_congr_right fun _ => exists_lowered (fun c _ => ?_) first)
    exact not_congr (lowerChar_eq_sign (by decide) (by decide))
  | oneOf outside members =>
    refine propext (and_congr_right fun _ => exists_lowered (fun c member => ?_) first)
    have other : c ≠ kelvin := fun same => foldable (same ▸ member)
    simp only [List.mem_map, exists_exists_and_eq_and]
    refine iff_congr (exists_congr fun content => ?_) Iff.rfl
    exact and_congr_right fun listed => Member.holds_lowered (faithful content listed) other
  | boundary outside =>
    have previous : isWord classes (if first = 0 then none else (text.map lowerChar)[first - 1]?) =
        isWord classes (if first = 0 then none else text[first - 1]?) := by
      split
      · rfl
      · exact isWord_lowered foldable _
    simp only [lowered, small, Asks, Boundary, isWord_lowered foldable, previous]
  | start => rfl
  | finish => simp only [lowered, small, Asks, List.length_map]

end Leaf

/-- Whether some part of a text is one that an expression stands for. -/
def Found (classes : CharClasses) (view : Char → Char) (text : List Char) (regex : Regex Leaf) : Prop :=
  ∃ first last, first ≤ text.length ∧ regex.Spans (Leaf.Asks classes view text) first last

/-- Whether a pattern can be read and is found in a text. -/
def Matches (classes : CharClasses) (view : Char → Char) (pattern text : List Char) : Prop :=
  ∃ regex, read pattern = some regex ∧ Found classes view text regex

/-- In lower case an expression finds in a text in lower case what its small form finds when case is ignored. -/
theorem found_lowered {classes : CharClasses} {text : List Char} {regex : Regex Leaf}
    (faithful : ∀ leaf ∈ regex.leaves, leaf.Faithful) (foldable : kelvin ∉ text) :
    Found classes id (text.map lowerChar) (regex.map Leaf.lowered) ↔
      Found classes lowerChar text (regex.map Leaf.small) := by
  have lowered : Spans (Leaf.Asks classes id (text.map lowerChar)) (regex.map Leaf.lowered) =
      Spans (fun leaf => Leaf.Asks classes lowerChar text leaf.small) regex :=
    spans_map fun leaf member => Leaf.asks_lowered (faithful leaf member) foldable
  have small : Spans (Leaf.Asks classes lowerChar text) (regex.map Leaf.small) =
      Spans (fun leaf => Leaf.Asks classes lowerChar text leaf.small) regex :=
    spans_map fun _ _ => rfl
  rw [Found, Found, lowered, small, List.length_map]

/-- A single leaf that asks for one character is found where there is such a character. -/
theorem found_oneOf {classes : CharClasses} {view : Char → Char} {text : List Char} {outside : Bool}
    {members : List Member} :
    Found classes view text (.sequence .empty (.leaf (.oneOf outside members))) ↔
      ∃ c ∈ text, (∃ member ∈ members, member.Holds classes view c) ↔ outside = false := by
  constructor
  · rintro ⟨first, last, _, middle, rfl, _, c, found, held⟩
    exact ⟨c, List.mem_of_getElem? found, held⟩
  · rintro ⟨c, member, held⟩
    obtain ⟨place, found⟩ := List.mem_iff_getElem?.mp member
    have inside : place < text.length := (List.getElem?_eq_some_iff.mp found).1
    exact ⟨place, place + 1, Nat.le_of_lt inside, place, rfl, rfl, c, found, held⟩

end Regex

end DataGrid
