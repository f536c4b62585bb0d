import DataGrid.Proofs.RawTexts

/-! Only clear texts are written as they read. Each place is bound to its own number: the texts of any two names then
differ where they start, so the first character that a scan takes for something else shows in what is written. -/

namespace DataGrid

open Sql

namespace Sql.Fragment

/-- Whether the texts that stand for names can be told from colons, and those of some places from all others. -/
structure Telling (most : Nat) (shown : List Char → List Char) : Prop where
  starts : ∀ name first second, shown name ++ first ≠ ':' :: second
  plain : ∀ name, '\\' ∉ shown name
  told : ∀ name, ∀ index < most, ∀ first second,
    shown name ++ first = shown (placeName index).toList ++ second → name = (placeName index).toList

def Scanned.shown (shown : List Char → List Char) : Scanned → List Char
  | .char c => [c]
  | .name content => shown content

/-- The texts of places from a number on. -/
def numbered (shown : List Char → List Char) (index count : Nat) : List String :=
  (List.range' index count).map fun i => String.ofList (shown (placeName i).toList)

variable {most index : Nat} {shown : List Char → List Char} {before : Option Char} {chars : List Char}

/-- Where nothing opens, a text is written up to the end of its first word as it is. -/
theorem head_dropWhile_shown (shown : List Char → List Char) (index : Nat) (shut : opensName before = false) :
    (((scan before 0 (numberPlaces index chars)).flatMap (Scanned.shown shown)).dropWhile Text.isWordChar).head? =
        some ':' ↔ runsOn chars = true := by
  induction chars generalizing before with
  | nil => simp [numberPlaces, scan, runsOn]
  | cons c rest ih =>
    have sign : Text.isWordChar ':' = false := by decide
    by_cases place : c = '?'
    · subst place
      have mark : Text.isWordChar '?' = false := by decide
      rw [scan_place, shut]
      simp [Scanned.shown, runsOn, sign, mark]
    · have other : numberPlaces index (c :: rest) = c :: numberPlaces index rest := by rw [numberPlaces, if_neg place]
      by_cases colon : c = ':'
      · subst colon
        rw [other, scan_colon, shut]
        simp [Scanned.shown, runsOn, sign]
      · rw [other, scan_char colon, List.flatMap_cons, Scanned.shown, List.singleton_append, runsOn,
          List.dropWhile_cons, List.dropWhile_cons]
        split
        · next letter => exact ih (by simp [opensName, letter])
        · simp [place, colon]

/-- A backslash that is kept is before no colon, or before one with a word and another colon behind it. -/
theorem runsOn_of_kept (shown : List Char → List Char) (index : Nat)
    (kept : let written := (scan (some '\\') 0 (numberPlaces index chars)).flatMap (Scanned.shown shown)
      ¬(written.head? = some ':' ∧ (written.tail.dropWhile Text.isWordChar).head? ≠ some ':')) :
    (!(chars.head? = some ':' && !runsOn chars.tail)) = true := by
  cases chars with
  | nil => rfl
  | cons c rest =>
    by_contra lost
    obtain ⟨rfl, ends⟩ : c = ':' ∧ runsOn rest = false := by simpa using lost
    have shut : opensName (some '\\') = false := by decide
    have behind : opensName (some ':') = false := by decide
    rw [numberPlaces, if_neg (by decide), scan_colon, shut] at kept
    refine kept ⟨rfl, fun runs => ?_⟩
    rw [(head_dropWhile_shown shown index behind).mp runs] at ends
    cases ends

theorem standsApart_of_scanned {chars : List Char} (alone : chars.takeWhile Text.isWordChar = [])
    (ends : runsOn chars = false) : standsApart chars = true := by
  cases chars with
  | nil => rfl
  | cons c rest =>
    have letter : Text.isWordChar c = false := by
      by_contra letter
      rw [Bool.not_eq_false] at letter
      rw [List.takeWhile_cons, if_pos letter] at alone
      cases alone
    rw [runsOn, List.dropWhile_cons, if_neg (by simp [letter])] at ends
    simpa [standsApart, letter] using ends

/-- A text that is written with the texts of its places in them, and no escapes, is clear. -/
theorem isClear_of_shown (telling : Telling most shown) (few : index + chars.count '?' ≤ most)
    (same : unescapeColons ((scan before 0 (numberPlaces index chars)).flatMap (Scanned.shown shown)) =
      fillPlaces (numbered shown index (chars.count '?')) chars) : isClear (opensName before) chars = true := by
  induction chars generalizing before index with
  | nil => rfl
  | cons c rest ih =>
    by_cases place : c = '?'
    · subst place
      rw [List.count_cons_self] at few same
      have filled : fillPlaces (numbered shown index (rest.count '?' + 1)) ('?' :: rest) =
          shown (placeName index).toList ++ fillPlaces (numbered shown (index + 1) (rest.count '?')) rest := by
        rw [numbered, List.range'_succ, List.map_cons, fillPlaces, if_pos rfl, List.headD_cons, String.toList_ofList]
        rfl
      rw [scan_place, filled] at same
      split at same
      · next opens =>
        obtain ⟨opens, ends⟩ := Bool.and_eq_true_iff.mp opens
        rw [List.flatMap_cons, Scanned.shown, unescapeColons_append (telling.plain _)] at same
        have alone : rest.takeWhile Text.isWordChar = [] := by
          have named := telling.told _ index (by omega) _ _ same
          rwa [List.append_right_eq_self] at named
        have apart : standsApart rest = true := standsApart_of_scanned alone (by simpa using ends)
        rw [alone, List.append_nil, List.append_cancel_left_eq, dropWhile_of_standsApart apart] at same
        have tail := ih (by omega) same
        rw [isClear, isClearAt, if_pos rfl, opens, apart]
        exact tail
      · rw [List.flatMap_cons, Scanned.shown, List.singleton_append, unescapeColons_cons (by decide)] at same
        exact absurd same.symm (telling.starts _ _ _)
    · rw [List.count_cons_of_ne place] at few same
      have other : numberPlaces index (c :: rest) = c :: numberPlaces index rest := by rw [numberPlaces, if_neg place]
      rw [other, fillPlaces, if_neg place] at same
      by_cases colon : c = ':'
      · subst colon
        rw [scan_colon, startsName_numberPlaces] at same
        split at same
        · rw [List.flatMap_cons, Scanned.shown, unescapeColons_append (telling.plain _)] at same
          exact absurd same (telling.starts _ _ _)
        · next shut =>
          rw [List.flatMap_cons, Scanned.shown, List.singleton_append, unescapeColons_cons (by decide)] at same
          have tail := ih few (List.cons.inj same).2
          rw [Bool.not_eq_true] at shut
          rw [isClear, isClearAt, if_neg place, if_pos rfl, shut]
          exact tail
      · rw [scan_char colon, List.flatMap_cons, Scanned.shown, List.singleton_append] at same
        by_cases slash : c = '\\'
        · subst slash
          rw [unescapeColons_slash] at same
          split at same
          · cases (List.cons.inj same).1
          · next kept =>
            have tail := ih few (List.cons.inj same).2
            rw [isClear, isClearAt, if_neg place, if_neg colon, if_pos rfl, runsOn_of_kept shown index kept]
            exact tail
        · rw [unescapeColons_cons slash] at same
          have tail := ih few (List.cons.inj same).2
          rw [isClear, isClearAt, if_neg place, if_neg colon, if_neg slash]
          simpa [place] using tail

/-- Bindings that tell their places: the number of each as a text. -/
def countedValues (most : Nat) : List Value :=
  (List.range most).map fun index => .text (String.ofList (Nat.toDigits 10 index))

def quotedNumber (index : Nat) : List Char := '\'' :: Nat.toDigits 10 index ++ ['\'']

/-- What is written for a name when the places are bound to their numbers. -/
def countedText (most : Nat) (name : List Char) : List Char :=
  match bindingOf (countedValues most) (String.ofList name) with
  | some (.text s) => '\'' :: s.toList ++ ['\'']
  | _ => "NULL".toList

theorem notMem_digits {c : Char} (other : ¬c.isDigit = true) (index : Nat) : c ∉ Nat.toDigits 10 index :=
  fun inside => other (Nat.isDigit_of_mem_toDigits (Nat.zero_lt_succ 9) (Nat.le_refl 10) inside)

theorem quote_notMem_digits (index : Nat) : '\'' ∉ Nat.toDigits 10 index := notMem_digits (by decide) index

theorem lookup_some (start : Nat) {bindings : List Value} {name : String} {value : Value}
    (found : (((List.range' start bindings.length).map placeName).zip bindings).lookup name = some value) :
    ∃ i, name = placeName (start + i) ∧ bindings[i]? = some value := by
  induction bindings generalizing start with
  | nil => cases found
  | cons first others ih =>
    rw [lookup_cons] at found
    split at found
    · next same =>
      cases found
      exact ⟨0, same, rfl⟩
    · obtain ⟨i, same, held⟩ := ih (start + 1) found
      exact ⟨i + 1, by rw [same, Nat.add_assoc, Nat.add_comm 1 i], held⟩

theorem bindingOf_some {bindings : List Value} {name : String} {value : Value}
    (found : bindingOf bindings name = some value) :
    ∃ index, name = placeName index ∧ bindings[index]? = some value := by
  rw [bindingOf, List.range_eq_range'] at found
  obtain ⟨index, same, held⟩ := lookup_some 0 found
  exact ⟨index, by rw [same, Nat.zero_add], held⟩

/-- A name is that of a place, which is bound to its number, or has no value. -/
theorem bindingOf_counted (most : Nat) (name : List Char) :
    (∃ index < most, name = (placeName index).toList ∧ bindingOf (countedValues most) (String.ofList name) =
        some (.text (String.ofList (Nat.toDigits 10 index)))) ∨
      bindingOf (countedValues most) (String.ofList name) = none := by
  cases found : bindingOf (countedValues most) (String.ofList name) with
  | none => exact .inr rfl
  | some value =>
    obtain ⟨index, same, held⟩ := bindingOf_some found
    obtain ⟨few, rfl⟩ : index < most ∧ Value.text (String.ofList (Nat.toDigits 10 index)) = value := by
      simpa [countedValues, List.getElem?_eq_some_iff] using held
    exact .inl ⟨index, few, by rw [← same, String.toList_ofList], rfl⟩

theorem countedText_some {most index : Nat} {name : List Char}
    (found : bindingOf (countedValues most) (String.ofList name) =
      some (.text (String.ofList (Nat.toDigits 10 index)))) : countedText most name = quotedNumber index := by
  rw [countedText, found, quotedNumber]
  simp

theorem countedText_none {most : Nat} {name : List Char}
    (missing : bindingOf (countedValues most) (String.ofList name) = none) :
    countedText most name = "NULL".toList := by
  rw [countedText, missing]

theorem countedText_place {most index : Nat} (few : index < most) :
    countedText most (placeName index).toList = quotedNumber index := by
  have held : (countedValues most)[index]? = some (.text (String.ofList (Nat.toDigits 10 index))) := by
    simp [countedValues, few]
  have placed := bindingOf_placed (countedValues most) index _ held
  rw [Nat.zero_add] at placed
  exact countedText_some (by rwa [String.ofList_toList])

theorem quotedNumber_injective {index other : Nat} {first second : List Char}
    (same : quotedNumber index ++ first = quotedNumber other ++ second) : index = other := by
  simp only [quotedNumber, List.cons_append, List.append_assoc, List.cons.injEq, true_and] at same
  have digits : Nat.toDigits 10 index = Nat.toDigits 10 other := by
    have cut (number : Nat) (rest : List Char) :
        (Nat.toDigits 10 number ++ '\'' :: rest).takeWhile (· ≠ '\'') = Nat.toDigits 10 number := by
      rw [List.takeWhile_append_of_pos fun c inside => by
        simpa using fun quote : c = '\'' => quote_notMem_digits number (quote ▸ inside)]
      simp
    rw [← cut index first, ← cut other second]
    exact congrArg _ same
  exact toDigits_injective digits

theorem countedText_telling (most : Nat) : Telling most (countedText most) where
  starts name first second same := by
    rcases bindingOf_counted most name with ⟨index, _, _, found⟩ | missing
    · rw [countedText_some found] at same
      cases same
    · rw [countedText_none missing] at same
      cases same
  plain name := by
    rcases bindingOf_counted most name with ⟨index, _, _, found⟩ | missing
    · rw [countedText_some found]
      simp [quotedNumber, notMem_digits (show ¬Char.isDigit '\\' = true by decide)]
    · rw [countedText_none missing]
      decide
  told name index few first second same := by
    rw [countedText_place few] at same
    rcases bindingOf_counted most name with ⟨other, _, named, found⟩ | missing
    · rw [countedText_some found] at same
      rw [named, quotedNumber_injective same]
    · rw [countedText_none missing] at same
      cases same

theorem literal_number (index : Nat) :
    Dialect.standard.literal (.text (String.ofList (Nat.toDigits 10 index))) =
      .ok (String.ofList (quotedNumber index)) := by
  have single : ∀ c ∈ Nat.toDigits 10 index, (if c = '\'' then ['\'', '\''] else [c]) = [c] := by
    intro c inside
    exact if_neg fun quote : c = '\'' => quote_notMem_digits index (quote ▸ inside)
  have quoted : Dialect.quoteText (Nat.toDigits 10 index) = quotedNumber index := by
    rw [Dialect.quoteText, List.flatMap_congr single, List.flatMap_singleton']
    rfl
  have same : Dialect.standard.literal (.text (String.ofList (Nat.toDigits 10 index))) =
      .ok (String.ofList (Dialect.quoteText (String.ofList (Nat.toDigits 10 index)).toList)) := rfl
  rw [same, String.toList_ofList, quoted]

theorem literal_counted (most : Nat) (name : List Char) :
    Dialect.standard.literal ((bindingOf (countedValues most) (String.ofList name)).getD .null) =
      .ok (String.ofList (countedText most name)) := by
  rcases bindingOf_counted most name with ⟨index, _, _, found⟩ | missing
  · rw [found, countedText_some found]
    exact literal_number index
  · rw [missing, countedText_none missing]
    rfl

theorem fragmentChars_shown {valueOf : String → Option Value} {shown : List Char → List Char}
    (written : ∀ name, Dialect.standard.literal ((valueOf (String.ofList name)).getD .null) =
      .ok (String.ofList (shown name))) (scanned : List Scanned) :
    fragmentChars .standard (fun _ => Dialect.standard.literal) (assemble valueOf scanned) =
      .ok (scanned.flatMap (Scanned.shown shown)) := by
  induction scanned with
  | nil => rfl
  | cons item rest ih =>
    cases item with
    | char c =>
      rw [fragmentChars_char, ih]
      rfl
    | name content =>
      have shows := written content
      rw [assemble]
      cases found : valueOf (String.ofList content) with
      | some value | none =>
        rw [found] at shows
        dsimp only
        rw [fragmentChars, ih]
        dsimp only [Option.getD] at shows
        rw [shows, Except.ok_bind, Except.ok_bind, String.toList_ofList]
        rfl

theorem mapM_counted (most : Nat) :
    (countedValues most).mapM Dialect.standard.literal = .ok (numbered (countedText most) 0 most) := by
  have every (indices : List Nat) (few : ∀ index ∈ indices, index < most) :
      (indices.map fun index => Value.text (String.ofList (Nat.toDigits 10 index))).mapM Dialect.standard.literal =
        .ok (indices.map fun index => String.ofList (countedText most (placeName index).toList)) := by
    induction indices with
    | nil => rfl
    | cons index rest ih =>
      obtain ⟨less, few⟩ := List.forall_mem_cons.mp few
      rw [List.map_cons, List.mapM_cons, literal_number, ih few, List.map_cons, countedText_place less]
      rfl
  rw [countedValues, every _ fun _ => List.mem_range.mp, numbered, List.range_eq_range']

/-- A text that is written as it should be when each place is bound to its number is clear. -/
theorem isClear_of_written {sql : String} {fragment : Fragment}
    (made : ofSql sql (countedValues (sql.toList.count '?')) = .ok fragment)
    (written : ∀ literals, (countedValues (sql.toList.count '?')).mapM Dialect.standard.literal = .ok literals →
      fragmentText .standard (fun _ => Dialect.standard.literal) fragment =
        .ok (String.ofList (fillPlaces literals sql.toList))) :
    isClear true sql.toList = true := by
  obtain ⟨_, rfl⟩ := ofSql_ok made
  have text := written _ (mapM_counted _)
  rw [fragmentText, fragmentChars_shown (literal_counted _), Except.ok_bind] at text
  have same := String.ofList_injective (Except.ok.inj text)
  have few : 0 + sql.toList.count '?' ≤ sql.toList.count '?' := by rw [Nat.zero_add]
  have clear : isClear (opensName none) sql.toList = true := isClear_of_shown (countedText_telling _) few same
  exact clear

end Sql.Fragment

end DataGrid
