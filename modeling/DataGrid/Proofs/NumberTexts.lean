import DataGrid.Number.Text
import DataGrid.Proofs.JsonGrammar

/-! The texts of numbers follow the grammar of JSON documents, whatever the number: an integer has no zero in front, and
the shortest digits of a double that is not zero begin with none either. -/

namespace DataGrid

open Json

variable {chars others : List Char}

namespace Json

theorem Digits.append (digits : Digits chars) (each : ∀ c ∈ others, c.isDigit = true) : Digits (chars ++ others) where
  filled := List.append_ne_nil_of_left_ne_nil digits.filled _
  each := List.forall_mem_append.mpr ⟨digits.each, each⟩

theorem Digits.head_append (digits : Digits chars) (others : List Char) : (chars ++ others).head? = chars.head? := by
  obtain ⟨c, rest, rfl⟩ := List.exists_cons_of_ne_nil digits.filled
  rfl

theorem digits_toDigits (n : Nat) : Digits (Nat.toDigits 10 n) where
  filled := Nat.toDigits_ne_nil
  each _ member := Nat.isDigit_of_mem_toDigits (Nat.zero_lt_succ 9) (Nat.le_refl 10) member

theorem head_toDigits {n : Nat} (other : n ≠ 0) : (Nat.toDigits 10 n).head? ≠ some '0' := by
  induction n using Nat.strongRecOn with
  | ind n ih =>
    by_cases small : n < 10
    · rw [Nat.toDigits_of_lt_base small]
      simpa using other
    · rw [Nat.toDigits_of_base_le (by decide) (Nat.le_of_not_lt small), (digits_toDigits _).head_append]
      exact ih (n / 10) (by omega) (by omega)

theorem wholeDigits_toDigits (n : Nat) : WholeDigits (Nat.toDigits 10 n) where
  toDigits := digits_toDigits n
  front zero := by
    by_cases none : n = 0
    · rw [none, Nat.toDigits_zero]
    · exact absurd zero (head_toDigits none)

theorem WholeDigits.unsigned (whole : WholeDigits chars) : Unsigned chars := by
  simpa using Unsigned.parts whole .none .none

end Json

theorem number_intText (n : Int) : Number (intText n).toList := by
  rw [intText, String.toList_ofList]
  have unsigned := (wholeDigits_toDigits n.natAbs).unsigned
  split
  · exact .negative unsigned
  · exact .positive unsigned

namespace Double

/-! ### Digits around a point -/

theorem isDigit_zeros (n : Nat) : ∀ c ∈ List.replicate n '0', c.isDigit = true := by
  intro c member
  rw [List.eq_of_mem_replicate member]
  rfl

theorem exponent_exponentText (e : Int) : Exponent (exponentText 'e' e) := by
  have digits := digits_toDigits e.natAbs
  have filled : Digits
      (if (Nat.toDigits 10 e.natAbs).length < 2 then '0' :: Nat.toDigits 10 e.natAbs else Nat.toDigits 10 e.natAbs) := by
    split
    · exact ⟨nofun, List.forall_mem_cons.mpr ⟨rfl, digits.each⟩⟩
    · exact digits
  have signed : [if e < 0 then '-' else '+'] = ['+'] ∨ [if e < 0 then '-' else '+'] = ['-'] := by
    by_cases negative : e < 0 <;> simp [negative]
  exact .power (.inl rfl) (.inr signed) filled

/-- Whether digits can stand in front of a point, behind `point` of them: they are a zero there, or begin with none. -/
structure Proper (chars : List Char) (point : Int) : Prop extends Digits chars where
  front : chars.head? = some '0' → chars = ['0'] ∧ point = 1

variable {point : Int}

theorem unsigned_positional (proper : Proper chars point) : Unsigned (positional chars point) := by
  have bare {whole decimals : List Char} (first : WholeDigits whole) (second : Digits decimals) :
      Unsigned (whole ++ '.' :: decimals) := by
    simpa using Unsigned.parts first (.point second) .none
  unfold positional
  split
  · have zero : WholeDigits ['0'] := ⟨⟨nofun, List.forall_mem_singleton.mpr rfl⟩, fun _ => rfl⟩
    refine bare zero ⟨?_, List.forall_mem_append.mpr ⟨isDigit_zeros _, proper.each⟩⟩
    exact List.append_ne_nil_of_right_ne_nil _ proper.filled
  · next positive =>
    split
    · have last : Digits ['0'] := ⟨nofun, List.forall_mem_singleton.mpr rfl⟩
      refine bare ⟨proper.toDigits.append (isDigit_zeros _), fun zero => ?_⟩ last
      rw [proper.head_append] at zero
      obtain ⟨rfl, rfl⟩ := proper.front zero
      rfl
    · next long =>
      have inside : 0 < point.toNat ∧ point.toNat < chars.length := by omega
      refine bare ⟨⟨?_, fun c member => proper.each c (List.mem_of_mem_take member)⟩, fun zero => ?_⟩
        ⟨?_, fun c member => proper.each c (List.mem_of_mem_drop member)⟩
      · simp [proper.filled, Nat.ne_of_gt inside.1]
      · rw [List.head?_take, if_neg (Nat.ne_of_gt inside.1)] at zero
        obtain ⟨rfl, rfl⟩ := proper.front zero
        rfl
      · simpa using inside.2

theorem unsigned_scientific (digits : Digits chars) : Unsigned (scientific chars point) := by
  have single {d : Char} (one : d.isDigit = true) : WholeDigits [d] :=
    ⟨⟨nofun, List.forall_mem_singleton.mpr one⟩, fun zero => by simpa using zero⟩
  have exponent := exponent_exponentText (point - 1)
  match chars, digits with
  | [d], digits => exact .parts (single (digits.each d (.head _))) .none exponent
  | d :: c :: rest, digits =>
    obtain ⟨one, each⟩ := List.forall_mem_cons.mp digits.each
    exact .parts (single one) (.point ⟨nofun, each⟩) exponent

/-! ### Shortest digits -/

theorem gridUnit_pos (a b : Int) : 0 < (gridUnit a b).1 ∧ 0 < (gridUnit a b).2 := by
  have power {base : Nat} (positive : 0 < base) (n : Nat) : 0 < Nat.pow base n := Nat.pow_pos positive
  unfold gridUnit
  constructor <;> refine Nat.mul_pos ?_ ?_ <;> split <;> first | exact power (by decide) _ | decide

theorem roundsTo_zero {m : Nat} (other : m ≠ 0) (q k : Int) : roundsTo m q 0 k = false := by
  have low : 0 < (bounds m q).1 := by
    unfold bounds
    dsimp only
    split <;> omega
  have positive := Nat.mul_pos low (gridUnit_pos (q - 2) k).1
  unfold roundsTo
  dsimp only
  rw [Nat.zero_mul]
  split
  · rw [decide_eq_false (Nat.not_le_of_lt positive), Bool.false_and]
  · rw [decide_eq_false (Nat.lt_asymm positive), Bool.false_and]

theorem neighbours_cases (m : Nat) (q k : Int) : ∃ below, below = m * (gridUnit q k).1 / (gridUnit q k).2 ∧
    (neighbours m q k = [below, below + 1] ∨ neighbours m q k = [below + 1, below]) := by
  refine ⟨_, rfl, ?_⟩
  unfold neighbours
  dsimp only
  split
  · exact .inl rfl
  · exact .inr rfl

/-- Whether a grid is at least as fine as the number. -/
def Fits (m : Nat) (q k : Int) : Prop := (gridUnit q k).2 ≤ m * (gridUnit q k).1

/-- What is found is not zero if the last grid is fine enough. -/
theorem shortestFrom_ne_zero {m : Nat} (other : m ≠ 0) {q top : Int} {fuel n : Nat}
    (last : Fits m q (top - (n + fuel : Nat))) : (shortestFrom m q top fuel n).1 ≠ 0 := by
  induction fuel generalizing n with
  | zero =>
    have positive := Nat.div_pos last (gridUnit_pos q _).2
    rw [Nat.add_zero] at positive
    obtain ⟨below, same, found⟩ := neighbours_cases m q (top - n)
    rw [← same] at positive
    rw [shortestFrom]
    rcases found with found | found <;> rw [found]
    · exact Nat.ne_of_gt positive
    · exact Nat.succ_ne_zero below
  | succ fuel ih =>
    rw [shortestFrom]
    split
    · next c found =>
      have rounds := List.find?_some found
      rintro rfl
      rw [roundsTo_zero other] at rounds
      cases rounds
    · exact ih (by rw [Nat.succ_add_eq_add_succ]; exact last)

theorem pow_length_le {n : Nat} (other : n ≠ 0) : Nat.pow 10 ((Nat.toDigits 10 n).length - 1) ≤ n := by
  by_cases single : (Nat.toDigits 10 n).length - 1 = 0
  · rw [single]
    exact Nat.pos_of_ne_zero other
  · refine Nat.le_of_not_lt fun small => ?_
    have short := (Nat.length_toDigits_le_iff (by decide) (Nat.pos_of_ne_zero single)).mpr small
    omega

theorem lt_pow_length (n : Nat) : n < Nat.pow 10 (Nat.toDigits 10 n).length :=
  (Nat.length_toDigits_le_iff (by decide) Nat.length_toDigits_pos).mp (Nat.le_refl _)

/-- Each digit of a number is worth more than the last of eighteen further ones, so the finest grid is fine enough. -/
theorem fits_finest {m : Nat} (other : m ≠ 0) (q : Int) :
    Fits m q ((Nat.toDigits 10 (m * (gridUnit q 0).1)).length - (Nat.toDigits 10 (gridUnit q 0).2).length + 1 - 19) := by
  have above := pow_length_le (Nat.ne_of_gt (Nat.mul_pos (Nat.pos_of_ne_zero other) (gridUnit_pos q 0).1))
  have under := lt_pow_length (gridUnit q 0).2
  have longer := @Nat.length_toDigits_pos 10 (m * (gridUnit q 0).1)
  generalize (Nat.toDigits 10 (m * (gridUnit q 0).1)).length = size at above longer ⊢
  generalize (Nat.toDigits 10 (gridUnit q 0).2).length = size' at under ⊢
  simp only [Fits, gridUnit, Int.le_refl, if_true, Nat.mul_one, Int.toNat_zero, Nat.pow_eq, Nat.pow_zero] at above under ⊢
  generalize (if 0 ≤ q then 2 ^ q.toNat else 1) = num at above ⊢
  generalize (if 0 ≤ q then 1 else 2 ^ (-q).toNat) = den at under ⊢
  split
  · next finer =>
    calc den * 10 ^ ((size : Int) - size' + 1 - 19).toNat
      _ ≤ 10 ^ size' * 10 ^ ((size : Int) - size' + 1 - 19).toNat := Nat.mul_le_mul_right _ (Nat.le_of_lt under)
      _ = 10 ^ (size' + ((size : Int) - size' + 1 - 19).toNat) := (Nat.pow_add ..).symm
      _ ≤ 10 ^ (size - 1) := Nat.pow_le_pow_right (by decide) (by omega)
      _ ≤ m * (num * 1) := by rwa [Nat.mul_one]
  · next coarser =>
    calc den * 1
      _ ≤ 10 ^ size' := by omega
      _ ≤ 10 ^ (size - 1 + (-((size : Int) - size' + 1 - 19)).toNat) := Nat.pow_le_pow_right (by decide) (by omega)
      _ = 10 ^ (size - 1) * 10 ^ (-((size : Int) - size' + 1 - 19)).toNat := Nat.pow_add ..
      _ ≤ m * num * 10 ^ (-((size : Int) - size' + 1 - 19)).toNat := Nat.mul_le_mul_right _ above
      _ = m * (num * 10 ^ (-((size : Int) - size' + 1 - 19)).toNat) := Nat.mul_assoc ..

theorem shortest_ne_zero {m : Nat} (other : m ≠ 0) (q : Int) : (shortest m q).1 ≠ 0 :=
  shortestFrom_ne_zero other (fits_finest other q)

theorem dropZeros_ne_zero {fuel c : Nat} {k : Int} (other : c ≠ 0) : (dropZeros fuel (c, k)).1 ≠ 0 := by
  induction fuel generalizing c k with
  | zero => exact other
  | succ fuel ih =>
    rw [dropZeros]
    split
    · next zero =>
      simp only [Bool.and_eq_true, decide_eq_true_eq] at zero
      exact ih (by omega)
    · exact other

theorem proper_shortestDigits (m : Nat) (q : Int) : Proper (shortestDigits m q).1 (shortestDigits m q).2 := by
  unfold shortestDigits
  split
  · exact ⟨⟨nofun, List.forall_mem_singleton.mpr rfl⟩, fun _ => ⟨rfl, rfl⟩⟩
  · next other =>
    have positive : (dropZeros 20 (shortest m q)).1 ≠ 0 := dropZeros_ne_zero (shortest_ne_zero other q)
    exact ⟨digits_toDigits _, fun zero => absurd zero (head_toDigits positive)⟩

/-- Whether a double is a number, and no infinite one. -/
def IsFinite : Double → Prop
  | .finite .. => True
  | _ => False

theorem number_text {x : Double} (finite : x.IsFinite) : Number x.text.toList := by
  obtain _ | _ | ⟨negative, m, q⟩ := x
  · cases finite
  · cases finite
  · have proper := proper_shortestDigits m q
    have unsigned : Unsigned (if -4 < (shortestDigits m q).2 && (shortestDigits m q).2 ≤ 16
        then positional (shortestDigits m q).1 (shortestDigits m q).2
        else scientific (shortestDigits m q).1 (shortestDigits m q).2) := by
      split
      · exact unsigned_positional proper
      · exact unsigned_scientific proper.toDigits
    rw [text, String.toList_ofList]
    cases negative with
    | true => exact .negative unsigned
    | false => exact .positive unsigned

end Double

end DataGrid
