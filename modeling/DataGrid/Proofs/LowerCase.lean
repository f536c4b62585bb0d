import DataGrid.Text.Lower

/-! What lower case makes of a character. Capitals of the basic alphabet become its small letters and other basic
characters stay what they are; of all characters beyond the basic ones, the Kelvin sign alone becomes a basic one. -/

namespace DataGrid.Text

def Basic (c : Char) : Prop := c.toNat < 0x80

instance (c : Char) : Decidable (Basic c) := inferInstanceAs (Decidable (_ < _))

def kelvin : Char := Char.ofNat 0x212A

/-- The lower case of the characters of a run lies beyond the basic characters, or the run is the Kelvin sign. -/
def runStaysForeign : Nat × Nat × Nat × Int → Bool
  | (first, last, _, offset) =>
    last < 0x80 || (first == 0x212A && last == 0x212A) ||
      (0x80 ≤ first + offset && (last + offset < 0xD800 || (0xDFFF < first + offset && last + offset < 0x110000)))

private theorem runs_stay_foreign : ∀ run ∈ lowerRuns, runStaysForeign run = true := by decide +kernel

theorem toNat_ofNat {n : Nat} (valid : n < 0xD800 ∨ 0xDFFF < n ∧ n < 0x110000) : (Char.ofNat n).toNat = n := by
  rw [Char.ofNat, dif_pos valid]
  rfl

theorem lowerChar_foreign {c : Char} (foreign : ¬ Basic c) (other : c ≠ kelvin) : ¬ Basic (lowerChar c) := by
  have unlike : c.toNat ≠ 0x212A := fun same => other (by rw [← Char.ofNat_toNat c, same]; rfl)
  unfold Basic at foreign
  rw [lowerChar, if_neg foreign]
  dsimp only
  split
  · rename_i first last step offset found
    have chosen := List.find?_some found
    have stays := runs_stay_foreign _ (List.mem_of_find?_eq_some found)
    simp only [runStaysForeign, Bool.and_eq_true, Bool.or_eq_true, decide_eq_true_eq, beq_iff_eq] at chosen stays
    have moved : 0x80 ≤ c.toNat + offset ∧
        (c.toNat + offset < 0xD800 ∨ 0xDFFF < c.toNat + offset ∧ c.toNat + offset < 0x110000) := by omega
    rw [Basic, Int.ofNat_eq_natCast, toNat_ofNat (by omega)]
    omega
  · exact foreign

/-- What holds of the characters at the first places holds of every basic character. -/
@[elab_as_elim]
theorem Basic.listed {motive : Char → Prop} {c : Char} (basic : Basic c)
    (listed : ∀ place < 0x80, motive (Char.ofNat place)) : motive c :=
  Char.ofNat_toNat c ▸ listed c.toNat basic

theorem Basic.of_alphanum {c : Char} (alphanum : c.isAlphanum = true) : Basic c := by
  delta Char.isAlphanum Char.isAlpha Char.isUpper Char.isLower at alphanum
  have within : 65 ≤ c.toNat ∧ c.toNat ≤ 90 ∨ 97 ≤ c.toNat ∧ c.toNat ≤ 122 ∨ 48 ≤ c.toNat ∧ c.toNat ≤ 57 := by
    simpa [Char.isDigit, UInt32.le_iff_toNat_le, or_assoc] using alphanum
  unfold Basic
  omega

theorem lowerChar_basic {c : Char} (basic : Basic c) :
    Basic (lowerChar c) ∧ (lowerChar c = c ∨ (c.isUpper = true ∧ (lowerChar c).isLower = true)) :=
  basic.listed (by decide +kernel)

theorem lowerChar_capital {c : Char} (low : 'A' ≤ c) (high : c ≤ 'Z') : (lowerChar c).toNat = c.toNat + 0x20 := by
  have basic : Basic c := Nat.lt_of_le_of_lt (Char.le_def.mp high) (by decide)
  revert low high
  exact basic.listed (by decide +kernel)

/-- A basic sign that is no letter is the lower case of itself alone. -/
theorem lowerChar_eq_sign {c sign : Char} (basic : Basic sign) (unlettered : sign.isAlpha = false) :
    lowerChar c = sign ↔ c = sign := by
  have other : sign.isUpper = false ∧ sign.isLower = false := Bool.or_eq_false_iff.mp unlettered
  constructor
  · rintro rfl
    by_cases own : Basic c
    · rcases (lowerChar_basic own).2 with same | ⟨_, small⟩
      · exact same.symm
      · simp [other.2] at small
    · by_cases same : c = kelvin
      · subst same
        exact absurd other (by decide +kernel)
      · exact absurd basic (lowerChar_foreign own same)
  · rintro rfl
    rcases (lowerChar_basic basic).2 with same | ⟨capital, _⟩
    · exact same
    · simp [other.1] at capital

theorem mem_lowerFrom {before chars : List Char} {sign : Char} (basic : Basic sign) (unlettered : sign.isAlpha = false)
    (member : sign ∈ lowerFrom before chars) : sign ∈ chars := by
  induction chars generalizing before with
  | nil => cases member
  | cons c rest ih =>
    rw [lowerFrom, List.mem_append] at member
    rcases member with here | later
    · split at here
      · split at here
        all_goals
          cases List.mem_singleton.mp here
          exact absurd basic (by decide)
      · split at here
        · simp only [List.mem_cons, List.not_mem_nil, or_false] at here
          rcases here with rfl | rfl
          · exact absurd unlettered (by decide)
          · exact absurd basic (by decide)
        · rw [List.mem_singleton, eq_comm, lowerChar_eq_sign basic unlettered] at here
          exact here ▸ List.mem_cons_self
    · exact List.mem_cons_of_mem _ (ih later)

theorem mem_lower {chars : List Char} {sign : Char} (basic : Basic sign) (unlettered : sign.isAlpha = false)
    (member : sign ∈ lower chars) : sign ∈ chars :=
  mem_lowerFrom basic unlettered member

end DataGrid.Text
