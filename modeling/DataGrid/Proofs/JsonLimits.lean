import DataGrid.Proofs.DecodedRequests
import DataGrid.Proofs.ValueTexts
import Mathlib.Data.List.Infix

/-! The limits of reading JSON. What is left after a value is an end of the text, and reading fails for the grammar
alone, unless lists and records stand deeper inside one another than the reader goes, or a number has more digits than
it takes. A text with few brackets and no long rows of digits stays within both limits, and so does what is read: the
value has a text again. -/

namespace DataGrid.Json

/-- Whether a text was given up for its size, not for its grammar. -/
def Fault.isLimit : Fault → Bool
  | .nesting | .longNumber _ => true
  | _ => false

/-- How many lists and records a text can open at most. -/
def openings (chars : List Char) : Nat := chars.countP fun c => c = '[' || c = '\x7b'

/-- Whether no more digits stand in a row than an integer may have. -/
def ShortNumbers (chars : List Char) : Prop :=
  ∀ digits, digits <:+: chars → (∀ c ∈ digits, c.isDigit = true) → digits.length ≤ digitLimit

/-- Whether a text inside `depth` lists and records is within the limits, whatever it holds. -/
structure Within (depth : Nat) (chars : List Char) : Prop where
  shallow : depth + openings chars ≤ stepLimit
  short : ShortNumbers chars

/-- What comes of reading a text: something good with an end of the text left, or a fault of the grammar. -/
def Proceeds {α : Type} (good : α → Prop) (chars : List Char) : Except Stop (α × List Char) → Prop
  | .ok (value, rest) => good value ∧ rest <:+ chars
  | .error stop => stop.fault.isLimit = false

section Proceeds
variable {α β : Type} {good : α → Prop} {better : β → Prop} {chars rest : List Char} {depth : Nat}

theorem Proceeds.mono {result : Except Stop (α × List Char)} (proceeds : Proceeds good rest result)
    (left : rest <:+ chars) : Proceeds good chars result := by
  cases result with
  | error stop => exact proceeds
  | ok read => exact ⟨proceeds.1, proceeds.2.trans left⟩

theorem Proceeds.bind {first : Except Stop (α × List Char)} {next : α × List Char → Except Stop (β × List Char)}
    (proceeds : Proceeds good chars first)
    (more : ∀ value rest, good value → rest <:+ chars → Proceeds better rest (next (value, rest))) :
    Proceeds better chars (first >>= next) := by
  cases first with
  | error stop => exact proceeds
  | ok read => exact (more read.1 read.2 proceeds.1 proceeds.2).mono proceeds.2

theorem Within.left (within : Within depth chars) (left : rest <:+ chars) : Within depth rest where
  shallow := (Nat.add_le_add_left (left.sublist.countP_le) depth).trans within.shallow
  short := fun digits inside => within.short digits (inside.trans left.isInfix)

/-- An opening bracket goes one level down, which is allowed, and counts no longer. -/
theorem Within.opened {c : Char} (within : Within depth (c :: rest)) (bracket : (c = '[' || c = '\x7b') = true) :
    depth < stepLimit ∧ Within (depth + 1) rest := by
  have counted : openings (c :: rest) = openings rest + 1 := List.countP_cons_of_pos bracket
  have shallow := within.shallow
  rw [counted] at shallow
  exact ⟨by omega, ⟨by omega, (within.left (List.suffix_cons c rest)).short⟩⟩

end Proceeds

theorem skipSpace_left (chars : List Char) : skipSpace chars <:+ chars := List.dropWhile_suffix _

theorem behind_sign {chars rest : List Char} {sign : Char} (found : skipSpace chars = sign :: rest) : rest <:+ chars :=
  (List.suffix_cons sign rest).trans (found ▸ skipSpace_left chars)

theorem readUnit_left {chars rest : List Char} {n : Nat} (read : readUnit chars = some (n, rest)) : rest <:+ chars := by
  simp only [readUnit, Option.ite_none_right_eq_some, Option.some.injEq, Prod.mk.injEq] at read
  rw [← read.2.2]
  exact List.drop_suffix 4 chars

theorem readUnicode_left {chars rest : List Char} {c : Char} (read : readUnicode chars = some (c, rest)) :
    rest <:+ chars := by
  obtain ⟨⟨first, after⟩, found, read⟩ := Option.bind_eq_some_iff.mp read
  have left := readUnit_left found
  have single {d : Char} (same : some (d, after) = some (c, rest)) : rest <:+ chars := by
    simp only [Option.some.injEq, Prod.mk.injEq] at same
    exact same.2 ▸ left
  dsimp only at read
  split at read
  · split at read
    · next more =>
      split at read
      · next second later pair =>
        split at read
        · simp only [Option.some.injEq, Prod.mk.injEq] at read
          rw [← read.2]
          exact (readUnit_left pair).trans
            ((List.suffix_cons _ _).trans ((List.suffix_cons _ _).trans left))
        · exact single read
      · exact single read
    · exact single read
  · exact single read

theorem readText_proceeds (start fuel : Nat) (content chars : List Char) :
    Proceeds (fun _ => True) chars (readText start fuel content chars) := by
  induction fuel generalizing content chars with
  | zero => rfl
  | succ fuel ih =>
    have passed {c : Char} {rest more : List Char} (content : List Char) (left : more <:+ rest) :
        Proceeds (fun _ => True) (c :: rest) (readText start fuel content more) :=
      (ih content more).mono (left.trans (List.suffix_cons c rest))
    cases chars with
    | nil => rfl
    | cons c rest =>
      unfold readText
      split
      · exact ⟨trivial, List.suffix_cons c rest⟩
      · split
        · rfl
        · split
          · exact passed _ List.suffix_rfl
          · split
            · rfl
            · next digits =>
              split
              · next found => exact passed _ ((readUnicode_left found).trans (List.suffix_cons _ _))
              · rfl
            · split
              · exact passed _ (List.suffix_cons _ _)
              · rfl

theorem readWord_left {chars rest : List Char} {value : Value} (read : readWord chars = some (value, rest)) :
    (∀ depth, value.WritableWithin depth) ∧ rest <:+ chars := by
  obtain ⟨⟨word, meant⟩, member, same⟩ := List.exists_of_findSome?_eq_some read
  dsimp only at same
  split at same
  · cases same
    refine ⟨fun depth => ?_, List.drop_suffix _ chars⟩
    simp only [List.mem_cons, Prod.mk.injEq, List.not_mem_nil, or_false] at member
    rcases member with ⟨-, rfl⟩ | ⟨-, rfl⟩ | ⟨-, rfl⟩ | ⟨-, rfl⟩ | ⟨-, rfl⟩ | ⟨-, rfl⟩ <;>
      exact Value.writableWithin_scalar trivial rfl
  · cases same

/-! ### Numbers -/

theorem digitsNumber_lt {digits : List Char} (decimal : ∀ c ∈ digits, c.isDigit = true) :
    digitsNumber digits < Nat.pow 10 digits.length := by
  suffices grown : ∀ n, digits.foldl (fun n c => 10 * n + (c.toNat - 0x30)) n + 1 ≤
      (n + 1) * Nat.pow 10 digits.length by
    have whole := grown 0
    unfold digitsNumber
    omega
  induction digits with
  | nil => exact fun n => Nat.le_of_eq (Nat.mul_one (n + 1)).symm
  | cons c rest ih =>
    intro n
    have digit : c.toNat - 0x30 ≤ 9 := by
      have range := decimal c (.head _)
      simp only [Char.isDigit, Bool.and_eq_true, decide_eq_true_eq, ge_iff_le] at range
      have most : c.toNat ≤ 0x39 := range.2
      omega
    calc (c :: rest).foldl (fun n c => 10 * n + (c.toNat - 0x30)) n + 1
        ≤ (10 * n + (c.toNat - 0x30) + 1) * Nat.pow 10 rest.length :=
          ih (fun d member => decimal d (.tail _ member)) (10 * n + (c.toNat - 0x30))
      _ ≤ (n + 1) * 10 * Nat.pow 10 rest.length := Nat.mul_le_mul_right _ (by omega)
      _ = (n + 1) * Nat.pow 10 (c :: rest).length := by
          rw [List.length_cons, Nat.pow_eq, Nat.pow_eq, Nat.pow_succ', Nat.mul_assoc]

theorem digitsNumber_lt_pow {digits : List Char} {limit : Nat} (decimal : ∀ c ∈ digits, c.isDigit = true)
    (short : digits.length ≤ limit) : digitsNumber digits < Nat.pow 10 limit :=
  (digitsNumber_lt decimal).trans_le (Nat.pow_le_pow_right (by decide) short)

theorem unsigned_left {chars body : List Char} {negative : Bool}
    (sign : (match chars with | '-' :: rest => (true, rest) | _ => (false, chars)) = (negative, body)) :
    body <:+ chars := by
  split at sign
  · exact (Prod.mk.inj sign).2 ▸ List.suffix_cons _ _
  · exact (Prod.mk.inj sign).2 ▸ List.suffix_rfl

theorem ite_drop_left {chars : List Char} (absent : Prop) [Decidable absent] (size : Nat) :
    (if absent then chars else chars.drop size) <:+ chars := by
  split
  · exact List.suffix_rfl
  · exact List.drop_suffix size chars

theorem readNumber_left {chars rest : List Char} {value : Value} (read : readNumber chars = some (value, rest)) :
    rest <:+ chars := by
  revert read
  fun_cases readNumber chars with
  | case1 =>
    intro read
    cases read
  | case2 negative body sign whole filled behind fraction later exponent plain none n =>
    simp only [Option.some.injEq, Prod.mk.injEq]
    rintro ⟨-, rfl⟩
    exact (ite_drop_left _ _).trans ((List.drop_suffix _ body).trans (unsigned_left sign))
  | case3 negative body sign whole filled behind fraction later exponent power after found present =>
    simp only [Option.some.injEq, Prod.mk.injEq]
    rintro ⟨-, rfl⟩
    have unread : later <:+ chars :=
      (ite_drop_left _ _).trans ((List.drop_suffix _ body).trans (unsigned_left sign))
    have ended : after <:+ later := by
      cases one : exponent with
      | none =>
        rw [one] at found
        exact (Prod.mk.inj found).2 ▸ List.suffix_rfl
      | some pair =>
        rw [one] at found
        obtain rfl : pair = (power, after) := found
        clear_value later
        dsimp only [exponent] at one
        cases later with
        | nil => cases one
        | cons e more =>
          simp only [Option.ite_none_right_eq_some, Option.ite_none_left_eq_some, Option.some.injEq,
            Prod.mk.injEq] at one
          obtain ⟨-, -, -, rfl⟩ := one
          refine (List.drop_suffix _ _).trans (List.IsSuffix.trans ?_ (List.suffix_cons e more))
          split
          · exact List.suffix_cons _ _
          · exact List.suffix_cons _ _
          · exact List.suffix_rfl
    exact ended.trans unread

theorem readNumber_int {chars rest : List Char} {n : Int} (read : readNumber chars = some (.int n, rest)) :
    ∃ digits, digits <:+: chars ∧ (∀ c ∈ digits, c.isDigit = true) ∧ n.natAbs = digitsNumber digits := by
  revert read
  fun_cases readNumber chars with
  | case1 =>
    intro read
    cases read
  | case2 negative body sign whole filled behind fraction later exponent plain none size =>
    intro read
    have front : whole <+: body ∧ ∀ c ∈ whole, c.isDigit = true := by
      dsimp only [whole]
      split
      · exact ⟨⟨_, rfl⟩, by simp⟩
      · exact ⟨List.takeWhile_prefix _, List.all_eq_true.mp List.all_takeWhile⟩
    refine ⟨whole, front.1.isInfix.trans (unsigned_left sign).isInfix, front.2, ?_⟩
    obtain ⟨rfl, -⟩ : (if negative then -size else size) = n ∧ later = rest := by simpa using read
    split
    · exact Int.natAbs_neg _
    · rfl
  | case3 negative body sign whole filled behind fraction later exponent power after found present =>
    intro read
    cases read

/-- No number of a text with short ones is too long. -/
theorem readNumber_short {chars rest : List Char} {n : Int} (short : ShortNumbers chars)
    (read : readNumber chars = some (.int n, rest)) : isTooLong n = false := by
  obtain ⟨digits, inside, decimal, size⟩ := readNumber_int read
  refine decide_eq_false (Nat.not_le.mpr ?_)
  rw [size]
  exact digitsNumber_lt_pow decimal (short digits inside decimal)

theorem readNumber_kind {chars rest : List Char} {value : Value} (read : readNumber chars = some (value, rest)) :
    (∃ n, value = .int n) ∨ ∃ x, value = .float x := by
  revert read
  fun_cases readNumber chars with
  | case1 =>
    intro read
    cases read
  | case2 =>
    simp only [Option.some.injEq, Prod.mk.injEq]
    rintro ⟨rfl, -⟩
    exact .inl ⟨_, rfl⟩
  | case3 =>
    simp only [Option.some.injEq, Prod.mk.injEq]
    rintro ⟨rfl, -⟩
    exact .inr ⟨_, rfl⟩

theorem readNumber_writable {chars rest : List Char} {value : Value} (short : ShortNumbers chars)
    (read : readNumber chars = some (value, rest)) (depth : Nat) : value.WritableWithin depth := by
  rcases readNumber_kind read with ⟨n, rfl⟩ | ⟨x, rfl⟩
  · exact Value.writableWithin_scalar (readNumber_short short read) rfl
  · exact Value.writableWithin_scalar trivial rfl

/-! ### Values -/

theorem checkDepth_ok {depth : Nat} {chars : List Char} (inside : depth < stepLimit) :
    checkDepth depth chars = .ok () := if_pos inside

theorem writable_object {depth : Nat} {fields : List (String × Value)} (inside : depth < stepLimit)
    (held : ∀ field ∈ fields, field.2.WritableWithin (depth + 1)) : (Value.object fields).WritableWithin depth :=
  (Value.writableWithin_iff depth _).mpr ⟨inside, List.forall_mem_map.mpr held⟩

theorem writable_list {depth : Nat} {items : List Value} (inside : depth < stepLimit)
    (held : ∀ item ∈ items, item.WritableWithin (depth + 1)) : (Value.list items).WritableWithin depth :=
  (Value.writableWithin_iff depth _).mpr ⟨inside, held⟩

mutual

theorem readValue_proceeds {depth : Nat} (fuel : Nat) {chars : List Char} (within : Within depth chars) :
    Proceeds (Value.WritableWithin depth) chars (readValue depth fuel chars) := by
  cases fuel with
  | zero => rfl
  | succ fuel =>
    unfold readValue
    split
    · next rest =>
      refine ((readText_proceeds _ _ _ rest).mono (List.suffix_cons _ rest)).bind fun content after _ _ => ?_
      exact ⟨Value.writableWithin_scalar trivial rfl, List.suffix_rfl⟩
    · next rest =>
      obtain ⟨inside, within⟩ := within.opened rfl
      rw [checkDepth_ok inside, Except.ok_bind]
      have members : Proceeds (Value.WritableWithin depth) rest (readFields (depth + 1) fuel [] (skipSpace rest)) :=
        (readFields_proceeds fuel inside (List.forall_mem_nil _) (within.left (skipSpace_left rest))).mono
          (skipSpace_left rest)
      split
      · next closed =>
        exact ⟨writable_object inside (List.forall_mem_nil _), (behind_sign closed).trans (List.suffix_cons _ rest)⟩
      · exact members.mono (List.suffix_cons _ rest)
    · next rest =>
      obtain ⟨inside, within⟩ := within.opened rfl
      rw [checkDepth_ok inside, Except.ok_bind]
      have members : Proceeds (Value.WritableWithin depth) rest (readItems (depth + 1) fuel [] (skipSpace rest)) :=
        (readItems_proceeds fuel inside (List.forall_mem_nil _) (within.left (skipSpace_left rest))).mono
          (skipSpace_left rest)
      split
      · next closed =>
        exact ⟨writable_list inside (List.forall_mem_nil _), (behind_sign closed).trans (List.suffix_cons _ rest)⟩
      · exact members.mono (List.suffix_cons _ rest)
    · split
      · next word => exact ⟨(readWord_left word).1 depth, (readWord_left word).2⟩
      · split
        · next number =>
          rw [readNumber_short within.short number]
          exact ⟨readNumber_writable within.short number depth, readNumber_left number⟩
        · next number => exact ⟨readNumber_writable within.short number depth, readNumber_left number⟩
        · rfl

theorem readFields_proceeds {depth : Nat} (fuel : Nat) {chars : List Char} {fields : List (String × Value)}
    (inside : depth < stepLimit) (held : ∀ field ∈ fields, field.2.WritableWithin (depth + 1))
    (within : Within (depth + 1) chars) :
    Proceeds (Value.WritableWithin depth) chars (readFields (depth + 1) fuel fields chars) := by
  cases fuel with
  | zero => rfl
  | succ fuel =>
    unfold readFields
    split
    · next rest =>
      refine ((readText_proceeds _ _ _ rest).mono (List.suffix_cons _ rest)).bind fun name after _ left => ?_
      have within := within.left left
      dsimp only
      split
      · next more colon =>
        have behind := (skipSpace_left more).trans (behind_sign colon)
        refine ((readValue_proceeds fuel (within.left behind)).mono behind).bind fun value after one left => ?_
        have held := Value.forall_setField held (String.ofList name) one
        dsimp only
        split
        · next closed => exact ⟨writable_object inside held, behind_sign closed⟩
        · next more comma =>
          have behind := (skipSpace_left more).trans (behind_sign comma)
          exact (readFields_proceeds fuel inside held (within.left (behind.trans left))).mono behind
        · rfl
      · rfl
    · rfl

theorem readItems_proceeds {depth : Nat} (fuel : Nat) {chars : List Char} {items : List Value}
    (inside : depth < stepLimit) (held : ∀ item ∈ items, item.WritableWithin (depth + 1))
    (within : Within (depth + 1) chars) :
    Proceeds (Value.WritableWithin depth) chars (readItems (depth + 1) fuel items chars) := by
  cases fuel with
  | zero => rfl
  | succ fuel =>
    unfold readItems
    refine (readValue_proceeds fuel within).bind fun value after one left => ?_
    have held : ∀ item ∈ value :: items, item.WritableWithin (depth + 1) := List.forall_mem_cons.mpr ⟨one, held⟩
    dsimp only
    split
    · next closed =>
      exact ⟨writable_list inside fun item member => held item (List.mem_reverse.mp member), behind_sign closed⟩
    · next more comma =>
      have behind := (skipSpace_left more).trans (behind_sign comma)
      exact (readItems_proceeds fuel inside held (within.left (behind.trans left))).mono behind
    · rfl

end

/-- Whether a text opens few enough lists and records and has no number of too many digits. -/
structure Bounded (chars : List Char) : Prop where
  shallow : openings chars ≤ stepLimit
  short : ShortNumbers chars

/-- A text that is short enough cannot go beyond the limits. -/
theorem bounded_of_length {chars : List Char} (few : chars.length ≤ stepLimit) : Bounded chars where
  shallow := List.countP_le_length.trans few
  short := fun digits inside _ => (inside.length_le.trans few).trans (by decide)

theorem Bounded.within {chars : List Char} (bounded : Bounded chars) : Within 0 chars :=
  ⟨by simpa using bounded.shallow, bounded.short⟩

/-- A text within the limits is read, or is no JSON. -/
theorem readDocument_grammar {chars : List Char} (bounded : Bounded chars) {stop : Stop}
    (stopped : readDocument chars = .error stop) : stop.fault.isLimit = false := by
  have proceeds := readValue_proceeds (chars.length + 1) (bounded.within.left (skipSpace_left chars))
  unfold readDocument at stopped
  split at stopped
  · next found =>
    rw [found] at proceeds
    cases stopped
    exact proceeds
  · split at stopped
    · cases stopped
    · cases stopped
      rfl

/-- What is read of a text within the limits has a text. -/
theorem readDocument_hasText {chars : List Char} (bounded : Bounded chars) {value : Value}
    (read : readDocument chars = .ok value) : value.HasText := by
  have proceeds := readValue_proceeds (chars.length + 1) (bounded.within.left (skipSpace_left chars))
  unfold readDocument at read
  split at read
  · cases read
  · next found =>
    rw [found] at proceeds
    split at read
    · cases read
      exact (Value.hasText_iff value).mpr proceeds.1
    · cases read

end DataGrid.Json
