import DataGrid.Proofs.SqlSkeleton
import Mathlib.Data.List.TakeWhile

/-! How raw text is scanned. Its places are turned into numbered names, and then every name behind a colon counts,
whether it comes from a place or was in the text. In a clear text only the places come out as names, each under its own
number. -/

namespace DataGrid

open Sql

namespace Sql.Fragment

/-- Whether a colon or a place follows the word at the front of a text. -/
def runsOn (chars : List Char) : Bool :=
  (chars.dropWhile Text.isWordChar).head?.any fun c => c = ':' || c = '?'

/-- Whether a colon before a text would make a name of the word at its front, once places are names too. -/
def opensWord (chars : List Char) : Bool := chars.head?.any Text.isWordChar && !runsOn chars

/-- Whether a place before a text keeps its own name. -/
def standsApart (chars : List Char) : Bool := chars.head?.all fun c => !(Text.isWordChar c || c = ':' || c = '?')

/-- Whether a character keeps its meaning before the rest of a text: a place stands apart from words, colons and other
places, a colon opens no name, and a backslash is not the kind that goes away before a colon. `opens` says whether a
name may open here. -/
def isClearAt (opens : Bool) (c : Char) (rest : List Char) : Bool :=
  if c = '?' then opens && standsApart rest
  else if c = ':' then !(opens && opensWord rest)
  else if c = '\\' then !(rest.head? = some ':' && !runsOn rest.tail)
  else true

/-- Whether nothing but its places is read into a text. -/
def isClear (opens : Bool) : List Char → Bool
  | [] => true
  | c :: rest => isClearAt opens c rest && isClear (c ≠ '?' && opensName (some c)) rest

/-- The scan of a clear text: its places by their numbers, and its other characters. -/
def marked (index : Nat) : List Char → List Scanned
  | [] => []
  | c :: rest =>
    if c = '?' then .name (placeName index).toList :: marked (index + 1) rest else .char c :: marked index rest

theorem placeName_word (index : Nat) : ∀ c ∈ (placeName index).toList, Text.isWordChar c = true := by
  intro c inside
  rw [placeName, String.toList_append, List.mem_append, String.toList_ofList] at inside
  rcases inside with letter | digit
  · have letters : "raw_".toList.all Text.isWordChar = true := by decide
    exact List.all_eq_true.mp letters c letter
  · rw [String.toList_ofList] at digit
    have digit : c.isDigit = true := Nat.isDigit_of_mem_toDigits (Nat.zero_lt_succ 9) (Nat.le_refl 10) digit
    have small : c.toNat < 0x80 := by
      simp only [Char.isDigit, Bool.and_eq_true, decide_eq_true_eq] at digit
      exact Nat.lt_of_le_of_lt (show c.toNat ≤ 57 from digit.2) (by decide)
    simp [Text.isWordChar, small, Char.isAlphanum, digit]

theorem placeName_ne_nil (index : Nat) : (placeName index).toList ≠ [] := by
  rw [placeName, String.toList_append]
  exact List.append_ne_nil_of_left_ne_nil (by decide) _

theorem toDigits_injective : Function.Injective (Nat.toDigits 10) := by
  intro first second same
  have number := congrArg (Nat.ofDigitChars 10 · 0) same
  simpa only [Nat.ofDigitChars_ten_toDigits] using number

theorem placeName_injective : Function.Injective placeName := by
  intro first second same
  rw [placeName, placeName, String.append_right_inj] at same
  exact toDigits_injective (String.ofList_injective same)

theorem scan_congr {before other : Option Char} (same : opensName before = opensName other) (chars : List Char) :
    scan before 0 chars = scan other 0 chars := by
  cases chars with
  | nil => rfl
  | cons c rest => simp only [scan, same]

/-- Behind a word, nothing opens. -/
theorem scan_skip {word : List Char} (letters : ∀ c ∈ word, Text.isWordChar c = true) (filled : word ≠ [])
    (before : Option Char) (rest : List Char) :
    scan before word.length (word ++ rest) = scan (some '_') 0 rest := by
  induction word generalizing before with
  | nil => exact absurd rfl filled
  | cons c word ih =>
    obtain ⟨letter, letters⟩ := List.forall_mem_cons.mp letters
    rw [List.length_cons, List.cons_append, scan]
    cases word with
    | nil => exact scan_congr (by simp [opensName, letter]; decide) rest
    | cons d word => exact ih letters (List.cons_ne_nil _ _) (some c)

/-- Whether a colon before a text would make a name of the word at its front. -/
def startsName (chars : List Char) : Bool :=
  chars.head?.any Text.isWordChar && (chars.dropWhile Text.isWordChar).head? != some ':'

theorem scan_colon (before : Option Char) (chars : List Char) :
    scan before 0 (':' :: chars) =
      if opensName before && startsName chars then
        .name (chars.takeWhile Text.isWordChar) :: scan (some '_') 0 (chars.dropWhile Text.isWordChar)
      else .char ':' :: scan (some ':') 0 chars := by
  obtain ⟨word, rest, rfl, found, left⟩ : ∃ word rest, chars = word ++ rest ∧ chars.takeWhile Text.isWordChar = word ∧
      chars.dropWhile Text.isWordChar = rest :=
    ⟨_, _, (List.takeWhile_append_dropWhile).symm, rfl, rfl⟩
  have letters : ∀ c ∈ word, Text.isWordChar c = true := by
    intro c inside
    rw [← found] at inside
    exact List.mem_takeWhile_imp inside
  have filled : (word ++ rest).head?.any Text.isWordChar = !word.isEmpty := by
    cases word with
    | nil =>
      have other := List.head?_dropWhile_not Text.isWordChar ([] ++ rest)
      rw [left] at other
      cases rest with
      | nil => rfl
      | cons c rest => exact other
    | cons c word => exact letters c (.head _)
  rw [scan, startsName, found, left, filled, List.drop_left]
  simp only [decide_true, Bool.true_and, ← Bool.and_assoc]
  split
  · next opens =>
    have some : word ≠ [] := by
      rintro rfl
      simp at opens
    rw [scan_skip letters some]
  · rfl

theorem scan_char {c : Char} (other : c ≠ ':') (before : Option Char) (chars : List Char) :
    scan before 0 (c :: chars) = .char c :: scan (some c) 0 chars := by
  rw [scan]
  simp [other]

theorem takeWhile_numberPlaces (index : Nat) (chars : List Char) :
    (numberPlaces index chars).takeWhile Text.isWordChar = chars.takeWhile Text.isWordChar := by
  induction chars with
  | nil => rfl
  | cons c rest ih =>
    rw [numberPlaces]
    split
    · next place =>
      subst place
      rfl
    · rw [List.takeWhile_cons, List.takeWhile_cons, ih]

theorem head_dropWhile_numberPlaces (index : Nat) (chars : List Char) :
    ((numberPlaces index chars).dropWhile Text.isWordChar).head? = some ':' ↔ runsOn chars = true := by
  induction chars with
  | nil => simp [numberPlaces, runsOn]
  | cons c rest ih =>
    rw [numberPlaces, runsOn]
    split
    · next place =>
      subst place
      simp [show Text.isWordChar '?' = false by decide, show Text.isWordChar ':' = false by decide]
    · next other =>
      rw [List.dropWhile_cons, List.dropWhile_cons]
      split
      · exact ih
      · simp [other]

theorem startsName_numberPlaces (index : Nat) (chars : List Char) :
    startsName (numberPlaces index chars) = opensWord chars := by
  have front : (numberPlaces index chars).head?.any Text.isWordChar = chars.head?.any Text.isWordChar := by
    cases chars with
    | nil => rfl
    | cons c rest =>
      rw [numberPlaces]
      split
      · next place =>
        subst place
        exact (show Text.isWordChar ':' = false by decide).trans (show Text.isWordChar '?' = false by decide).symm
      · rfl
  rw [startsName, opensWord, front, Bool.eq_iff_iff]
  simp only [Bool.and_eq_true, bne_iff_ne, ne_eq, head_dropWhile_numberPlaces, Bool.not_eq_true', Bool.not_eq_true]

theorem head_of_standsApart {chars : List Char} (apart : standsApart chars = true) :
    chars = [] ∨ ∃ c rest, chars = c :: rest ∧ Text.isWordChar c = false ∧ c ≠ ':' ∧ c ≠ '?' := by
  cases chars with
  | nil => exact .inl rfl
  | cons c rest =>
    refine .inr ⟨c, rest, rfl, ?_⟩
    simpa [standsApart, and_assoc] using apart

theorem runsOn_of_standsApart {chars : List Char} (apart : standsApart chars = true) : runsOn chars = false := by
  rcases head_of_standsApart apart with rfl | ⟨c, rest, rfl, letter, colon, place⟩
  · rfl
  · simp [runsOn, letter, colon, place]

theorem takeWhile_of_standsApart {chars : List Char} (apart : standsApart chars = true) :
    chars.takeWhile Text.isWordChar = [] := by
  rcases head_of_standsApart apart with rfl | ⟨c, rest, rfl, letter, _⟩
  · rfl
  · simp [letter]

theorem dropWhile_of_standsApart {chars : List Char} (apart : standsApart chars = true) (index : Nat) :
    (numberPlaces index chars).dropWhile Text.isWordChar = numberPlaces index chars := by
  rcases head_of_standsApart apart with rfl | ⟨c, rest, rfl, letter, _, place⟩
  · rfl
  · simp [numberPlaces, place, letter]

/-- What is scanned at a place: the place by its number, if it stands apart. -/
theorem scan_place (before : Option Char) (index : Nat) (chars : List Char) :
    scan before 0 (numberPlaces index ('?' :: chars)) =
      if opensName before && !runsOn chars then
        .name ((placeName index).toList ++ chars.takeWhile Text.isWordChar) ::
          scan (some '_') 0 ((numberPlaces (index + 1) chars).dropWhile Text.isWordChar)
      else .char ':' :: scan (some ':') 0 ((placeName index).toList ++ numberPlaces (index + 1) chars) := by
  obtain ⟨c, name, named⟩ := List.exists_cons_of_ne_nil (placeName_ne_nil index)
  have letters := placeName_word index
  have first : ((placeName index).toList ++ numberPlaces (index + 1) chars).head?.any Text.isWordChar = true := by
    rw [named] at letters ⊢
    exact letters c (.head _)
  have behind : (((numberPlaces (index + 1) chars).dropWhile Text.isWordChar).head? != some ':') = !runsOn chars := by
    rw [Bool.eq_iff_iff]
    simp only [bne_iff_ne, ne_eq, head_dropWhile_numberPlaces, Bool.not_eq_true', Bool.not_eq_true]
  rw [numberPlaces, if_pos rfl, List.cons_append, scan_colon, startsName, first, List.dropWhile_append_of_pos letters,
    List.takeWhile_append_of_pos letters, takeWhile_numberPlaces, behind, Bool.true_and]

/-- A clear text is scanned as it reads. -/
theorem scan_numberPlaces {before : Option Char} {index : Nat} {chars : List Char}
    (clear : isClear (opensName before) chars = true) :
    scan before 0 (numberPlaces index chars) = marked index chars := by
  induction chars generalizing before index with
  | nil => rfl
  | cons c rest ih =>
    obtain ⟨here, clear⟩ := Bool.and_eq_true_iff.mp clear
    by_cases place : c = '?'
    · subst place
      obtain ⟨opens, apart⟩ : opensName before = true ∧ standsApart rest = true := Bool.and_eq_true_iff.mp here
      have tail : scan (some '_') 0 (numberPlaces (index + 1) rest) = marked (index + 1) rest := ih clear
      rw [scan_place, opens, runsOn_of_standsApart apart, takeWhile_of_standsApart apart,
        dropWhile_of_standsApart apart, marked, if_pos rfl, ← tail, List.append_nil]
      rfl
    · have other : numberPlaces index (c :: rest) = c :: numberPlaces index rest := by rw [numberPlaces, if_neg place]
      have tail : scan (some c) 0 (numberPlaces index rest) = marked index rest := ih (by simpa [place] using clear)
      rw [marked, if_neg place, other, ← tail]
      by_cases colon : c = ':'
      · subst colon
        have here : (!(opensName before && opensWord rest)) = true := here
        have shut : (opensName before && opensWord rest) = false := by rwa [Bool.not_eq_true'] at here
        rw [scan_colon, startsName_numberPlaces, shut]
        rfl
      · exact scan_char colon before _

variable {valueOf : String → Option Value} {rest : List Scanned}

/-- A character does to the parts of a fragment what it does to characters that go on and to those that start anew. -/
theorem assemble_char {β : Type} (c : Char) (view : Fragment → β) (step : β → β)
    (longer : ∀ content more, view (.chars (c :: content) :: more) = step (view (.chars content :: more)))
    (anew : ∀ fragment, view (.chars [c] :: fragment) = step (view fragment)) :
    view (assemble valueOf (.char c :: rest)) = step (view (assemble valueOf rest)) := by
  rw [assemble]
  split
  · next content more found => rw [found, longer]
  · exact anew _

theorem names_char (c : Char) : names (assemble valueOf (.char c :: rest)) = names (assemble valueOf rest) :=
  assemble_char c names id (fun _ _ => rfl) fun _ => rfl

theorem freeNames_char (c : Char) :
    freeNames (assemble valueOf (.char c :: rest)) = freeNames (assemble valueOf rest) :=
  assemble_char c freeNames id (fun _ _ => rfl) fun _ => rfl

theorem valuesFrom_char (c : Char) (before : List String) :
    valuesFrom before (assemble valueOf (.char c :: rest)) = valuesFrom before (assemble valueOf rest) :=
  assemble_char c (valuesFrom before) id (fun _ _ => rfl) fun _ => rfl

theorem fragmentChars_char {dialect : Dialect} {write : String → Value → Except Error String} (c : Char) :
    fragmentChars dialect write (assemble valueOf (.char c :: rest)) =
      (fragmentChars dialect write (assemble valueOf rest)).map (dialect.percent [c] ++ ·) := by
  refine assemble_char c (fragmentChars dialect write) _ (fun content more => ?_) fun fragment => ?_
  · rw [fragmentChars, fragmentChars]
    cases fragmentChars dialect write more with
    | error failure => rfl
    | ok chars =>
      have split : dialect.percent (c :: content) = dialect.percent [c] ++ dialect.percent content :=
        dialect.percent_append [c] content
      exact congrArg Except.ok (by rw [split, List.append_assoc])
  · rw [fragmentChars]
    cases fragmentChars dialect write fragment <;> rfl

theorem names_name (content : List Char) :
    names (assemble valueOf (.name content :: rest)) = String.ofList content :: names (assemble valueOf rest) := by
  rw [assemble]
  cases valueOf (String.ofList content) <;> rfl

theorem assemble_place {index : Nat} {value : Value} (found : valueOf (placeName index) = some value) :
    assemble valueOf (.name (placeName index).toList :: rest) =
      .place (placeName index) value :: assemble valueOf rest := by
  rw [assemble, String.ofList_toList, found]

/-- Whether the places from a number on have some values. -/
def Placed (valueOf : String → Option Value) (index : Nat) (values : List Value) : Prop :=
  ∀ i value, values[i]? = some value → valueOf (placeName (index + i)) = some value

theorem Placed.head {index : Nat} {value : Value} {values : List Value}
    (placed : Placed valueOf index (value :: values)) : valueOf (placeName index) = some value := placed 0 value rfl

theorem Placed.tail {index : Nat} {value : Value} {values : List Value}
    (placed : Placed valueOf index (value :: values)) : Placed valueOf (index + 1) values := by
  intro i found same
  rw [Nat.add_assoc, Nat.add_comm 1 i]
  exact placed (i + 1) found same

/-- The values of the names that the places of a text have. -/
def bindingOf (bindings : List Value) (name : String) : Option Value :=
  (((List.range bindings.length).map placeName).zip bindings).lookup name

theorem lookup_cons (start : Nat) (first : Value) (others : List Value) (name : String) :
    (((List.range' start (first :: others).length).map placeName).zip (first :: others)).lookup name =
      if name = placeName start then some first
      else (((List.range' (start + 1) others.length).map placeName).zip others).lookup name := by
  rw [List.length_cons, List.range'_succ, List.map_cons, List.zip_cons_cons, List.lookup_cons]
  split
  · next same => rw [if_pos (eq_of_beq same)]
  · next other => rw [if_neg (beq_eq_false_iff_ne.mp other)]

theorem lookup_placed (start : Nat) (bindings : List Value) : Placed
    (fun name => (((List.range' start bindings.length).map placeName).zip bindings).lookup name) start bindings := by
  induction bindings generalizing start with
  | nil => exact nofun
  | cons first others ih =>
    rintro (_ | i) value found
    all_goals dsimp only
    · rw [Nat.add_zero, lookup_cons, if_pos rfl]
      exact found
    · have later := ih (start + 1) i value found
      have other : placeName (start + (i + 1)) ≠ placeName start :=
        fun same => absurd (placeName_injective same) (by omega)
      rw [lookup_cons, if_neg other]
      rwa [Nat.add_assoc, Nat.add_comm 1 i] at later

theorem bindingOf_placed (bindings : List Value) : Placed (bindingOf bindings) 0 bindings := by
  have placed := lookup_placed 0 bindings
  rwa [← List.range_eq_range'] at placed

theorem names_marked (valueOf : String → Option Value) (index : Nat) (chars : List Char) :
    names (assemble valueOf (marked index chars)) = (List.range' index (chars.count '?')).map placeName := by
  induction chars generalizing index with
  | nil => rfl
  | cons c rest ih =>
    rw [marked]
    split
    · next place =>
      subst place
      rw [names_name, ih, List.count_cons_self, List.range'_succ, List.map_cons, String.ofList_toList]
    · next other => rw [names_char, ih, List.count_cons_of_ne other]

theorem freeNames_marked {index : Nat} {chars : List Char} {values : List Value} (placed : Placed valueOf index values)
    (many : chars.count '?' = values.length) : freeNames (assemble valueOf (marked index chars)) = [] := by
  induction chars generalizing index values with
  | nil => rfl
  | cons c rest ih =>
    rw [marked]
    split
    · next place =>
      subst place
      rw [List.count_cons_self] at many
      obtain ⟨first, others, rfl⟩ := List.exists_cons_of_length_eq_add_one many.symm
      rw [assemble_place placed.head, freeNames]
      exact ih placed.tail (Nat.succ.inj many)
    · next other =>
      rw [List.count_cons_of_ne other] at many
      rw [freeNames_char]
      exact ih placed many

/-- The values of the places of a text come in their order. -/
theorem valuesFrom_marked {index : Nat} {chars : List Char} {values : List Value} {before : List String}
    (placed : Placed valueOf index values) (many : chars.count '?' = values.length)
    (earlier : ∀ name ∈ before, ∃ i < index, name = placeName i) :
    valuesFrom before (assemble valueOf (marked index chars)) = values := by
  induction chars generalizing index values before with
  | nil => exact (List.eq_nil_of_length_eq_zero many.symm).symm
  | cons c rest ih =>
    rw [marked]
    split
    · next place =>
      subst place
      rw [List.count_cons_self] at many
      obtain ⟨first, others, rfl⟩ := List.exists_cons_of_length_eq_add_one many.symm
      have fresh : before.contains (placeName index) = false := by
        rw [Bool.eq_false_iff, ne_eq, List.contains_iff_mem]
        intro inside
        obtain ⟨i, less, same⟩ := earlier _ inside
        exact absurd (placeName_injective same) (Nat.ne_of_gt less)
      have earlier' : ∀ name ∈ placeName index :: before, ∃ i < index + 1, name = placeName i := by
        rintro name (_ | ⟨_, inside⟩)
        · exact ⟨index, Nat.lt_succ_self _, rfl⟩
        · obtain ⟨i, less, same⟩ := earlier name inside
          exact ⟨i, Nat.lt_succ_of_lt less, same⟩
      rw [assemble_place placed.head, valuesFrom, fresh]
      exact congrArg (first :: ·) (ih placed.tail (Nat.succ.inj many) earlier')
    · next other =>
      rw [List.count_cons_of_ne other] at many
      rw [valuesFrom_char]
      exact ih placed many earlier

theorem ofSql_ok {sql : String} {bindings : List Value} {fragment : Fragment}
    (made : ofSql sql bindings = .ok fragment) : sql.toList.count '?' = bindings.length ∧
      fragment = assemble (bindingOf bindings) (scan none 0 (numberPlaces 0 sql.toList)) := by
  rw [ofSql] at made
  dsimp only at made
  split at made
  · cases made
  · next many =>
    split at made
    · cases made
      exact ⟨not_not.mp many, rfl⟩
    · cases made

/-- A clear text with as many values as places is accepted. -/
theorem ofSql_clear {sql : String} {bindings : List Value} (clear : isClear true sql.toList = true)
    (many : sql.toList.count '?' = bindings.length) :
    ofSql sql bindings = .ok (assemble (bindingOf bindings) (marked 0 sql.toList)) := by
  have scanned : scan none 0 (numberPlaces 0 sql.toList) = marked 0 sql.toList := scan_numberPlaces clear
  have all : ((List.range bindings.length).map placeName).all
      (names (assemble (bindingOf bindings) (marked 0 sql.toList))).contains = true := by
    rw [names_marked, many, ← List.range_eq_range', List.all_eq_true]
    intro name inside
    rwa [List.contains_iff_mem]
  rw [ofSql]
  dsimp only
  rw [if_neg (not_not.mpr many), scanned]
  exact if_pos all

end Sql.Fragment

end DataGrid
