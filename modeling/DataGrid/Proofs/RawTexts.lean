import DataGrid.Proofs.ColumnTables
import DataGrid.Proofs.RawScanning

/-! Raw text as it is written. In a clear text every place has the literal of its value, and all else stays as it is.
What takes the backslash from a colon of the text takes it from the literals as well. -/

namespace DataGrid

open Sql

namespace Sql.Fragment

/-- A text with literals in its places. -/
def fillPlaces (literals : List String) : List Char → List Char
  | [] => []
  | c :: rest =>
    if c = '?' then (literals.headD "?").toList ++ fillPlaces literals.tail rest else c :: fillPlaces literals rest

/-- A literal without the backslashes that are taken for signs of the text around it. -/
def unescaped (literal : String) : String := String.ofList (unescapeColons literal.toList)

variable {dialect : Dialect} {literals : List String}

theorem percent_nil (dialect : Dialect) : dialect.percent [] = [] := by
  unfold Dialect.percent
  split <;> rfl

theorem percent_cons (dialect : Dialect) (c : Char) (rest : List Char) :
    dialect.percent (c :: rest) = dialect.percent [c] ++ dialect.percent rest := dialect.percent_append [c] rest

theorem mem_percent_single {c d : Char} (inside : d ∈ dialect.percent [c]) : d = c := by
  simpa using Dialect.mem_percent.mp inside

theorem fillPlaces_append {front : List Char} (free : '?' ∉ front) (literals : List String) (rest : List Char) :
    fillPlaces literals (front ++ rest) = front ++ fillPlaces literals rest := by
  induction front with
  | nil => rfl
  | cons c front ih =>
    rw [List.mem_cons, not_or] at free
    rw [List.cons_append, fillPlaces, if_neg (Ne.symm free.1), ih free.2]
    rfl

theorem fillPlaces_char {c : Char} (other : c ≠ '?') (literals : List String) (rest : List Char) :
    fillPlaces literals (dialect.percent (c :: rest)) =
      dialect.percent [c] ++ fillPlaces literals (dialect.percent rest) := by
  rw [percent_cons, fillPlaces_append fun place => other (mem_percent_single place).symm]

theorem fillPlaces_place (literals : List String) (rest : List Char) :
    fillPlaces literals (dialect.percent ('?' :: rest)) =
      (literals.headD "?").toList ++ fillPlaces literals.tail (dialect.percent rest) := by
  have single : dialect.percent ['?'] = ['?'] := by
    unfold Dialect.percent
    split <;> rfl
  rw [percent_cons, single, List.singleton_append, fillPlaces, if_pos rfl]

/-- The parts of a clear text, written with literals. -/
theorem fragmentChars_marked {valueOf : String → Option Value} {index : Nat} {chars : List Char} {values : List Value}
    (placed : Placed valueOf index values) (many : chars.count '?' = values.length)
    (written : values.mapM dialect.literal = .ok literals) :
    fragmentChars dialect (fun _ => dialect.literal) (assemble valueOf (marked index chars)) =
      .ok (fillPlaces literals (dialect.percent chars)) := by
  induction chars generalizing index values literals with
  | nil =>
    rw [percent_nil]
    rfl
  | cons c rest ih =>
    rw [marked]
    split
    · next place =>
      subst place
      rw [List.count_cons_self] at many
      obtain ⟨first, others, rfl⟩ := List.exists_cons_of_length_eq_add_one many.symm
      rw [List.mapM_cons] at written
      obtain ⟨literal, found, written⟩ := Except.bind_ok written
      obtain ⟨more, listed, same⟩ := Except.bind_ok written
      cases same
      rw [assemble_place placed.head, fragmentChars, found, ih placed.tail (Nat.succ.inj many) listed,
        fillPlaces_place]
      rfl
    · next other =>
      rw [List.count_cons_of_ne other] at many
      rw [fragmentChars_char, ih placed many written, fillPlaces_char other]
      rfl

theorem unescapeColons_cons {c : Char} (other : c ≠ '\\') (rest : List Char) :
    unescapeColons (c :: rest) = c :: unescapeColons rest :=
  unescapeColons.eq_3 c rest fun _ same _ => other same

theorem unescapeColons_append {front : List Char} (free : '\\' ∉ front) (rest : List Char) :
    unescapeColons (front ++ rest) = front ++ unescapeColons rest := by
  induction front with
  | nil => rfl
  | cons c front ih =>
    rw [List.mem_cons, not_or] at free
    rw [List.cons_append, unescapeColons_cons (Ne.symm free.1), ih free.2]
    rfl

theorem unescapeColons_slash (chars : List Char) :
    unescapeColons ('\\' :: chars) =
      if chars.head? = some ':' ∧ (chars.tail.dropWhile Text.isWordChar).head? ≠ some ':' then
        ':' :: unescapeColons chars.tail
      else '\\' :: unescapeColons chars := by
  cases chars with
  | nil => rfl
  | cons c rest =>
    by_cases colon : c = ':'
    · subst colon
      rw [unescapeColons]
      split
      · next runs => simp [runs]
      · next ends => simp [ends]
    · have other : ¬((c :: rest).head? = some ':' ∧
          ((c :: rest).tail.dropWhile Text.isWordChar).head? ≠ some ':') :=
        fun both => colon (Option.some.inj both.1)
      rw [if_neg other]
      exact unescapeColons.eq_3 _ _ fun _ _ same => colon (List.cons.inj same).1

/-- Whether a text that stands before another one keeps what a colon in it means. -/
def Apart (chars : List Char) : Prop := ∀ c ∈ chars.head?, Text.isWordChar c = false ∧ c ≠ ':'

theorem Apart.head_dropWhile {chars : List Char} (apart : Apart chars) (front : List Char) :
    ((front ++ chars).dropWhile Text.isWordChar).head? = some ':' ↔
      (front.dropWhile Text.isWordChar).head? = some ':' := by
  induction front with
  | nil =>
    cases chars with
    | nil => rfl
    | cons c rest =>
      obtain ⟨letter, colon⟩ := apart c rfl
      simp [letter, colon]
  | cons c front ih =>
    rw [List.cons_append, List.dropWhile_cons, List.dropWhile_cons]
    split
    · exact ih
    · rfl

/-- A text is unescaped up to where another one stands apart from it. -/
theorem unescapeColons_apart {chars : List Char} (apart : Apart chars) (front : List Char) :
    unescapeColons (front ++ chars) = unescapeColons front ++ unescapeColons chars := by
  fun_induction unescapeColons front with
  | case1 => rfl
  | case2 rest runs ih =>
    have runs' := (apart.head_dropWhile rest).mpr runs
    rw [List.cons_append, List.cons_append, unescapeColons, if_pos runs']
    exact congrArg ('\\' :: ·) ih
  | case3 rest ends ih =>
    have ends' := fun runs => ends ((apart.head_dropWhile rest).mp runs)
    rw [List.cons_append, List.cons_append, unescapeColons, if_neg ends', ih]
    rfl
  | case4 c rest other ih =>
    have other' : ∀ more, c = '\\' → rest ++ chars = ':' :: more → False := by
      intro more slash same
      cases rest with
      | nil => exact (apart ':' (congrArg List.head? same)).2 rfl
      | cons d rest => exact other rest slash (congrArg (· :: rest) (List.cons.inj same).1)
    rw [List.cons_append, unescapeColons.eq_3 c (rest ++ chars) other', ih]
    rfl

theorem percent_single {c : Char} (other : c ≠ '%') : dialect.percent [c] = [c] := by
  unfold Dialect.percent
  split
  · simp [other]
  · rfl

/-- Percent signs stand for themselves wherever signs of a fragment are looked for. -/
theorem percent_front (dialect : Dialect) (c : Char) :
    dialect.percent [c] = [c] ∨ c = '%' ∧ dialect.percent [c] = ['%', '%'] := by
  by_cases sign : c = '%'
  · subst sign
    unfold Dialect.percent
    split
    · exact .inr ⟨rfl, rfl⟩
    · exact .inl rfl
  · exact .inl (percent_single sign)

theorem head_fillPlaces {c : Char} (other : c ≠ '?') (literals : List String) (rest : List Char) :
    (fillPlaces literals (dialect.percent (c :: rest))).head? = some c := by
  rw [fillPlaces_char other]
  rcases percent_front dialect c with same | ⟨rfl, same⟩ <;> rw [same] <;> rfl

theorem Apart.of_standsApart {chars : List Char} (apart : standsApart chars = true) (literals : List String) :
    Apart (fillPlaces literals (dialect.percent chars)) := by
  rcases head_of_standsApart apart with rfl | ⟨c, rest, rfl, letter, colon, place⟩
  · rw [percent_nil]
    exact nofun
  · intro d first
    rw [head_fillPlaces place] at first
    cases first
    exact ⟨letter, colon⟩

/-- Where nothing opens, a clear text goes on as a word to the same end, whatever is in its places. -/
theorem head_dropWhile_fillPlaces {chars : List Char} (clear : isClear false chars = true) (literals : List String) :
    ((fillPlaces literals (dialect.percent chars)).dropWhile Text.isWordChar).head? = some ':' ↔
      runsOn chars = true := by
  induction chars with
  | nil =>
    rw [percent_nil]
    simp [fillPlaces, runsOn]
  | cons c rest ih =>
    obtain ⟨here, clear⟩ := Bool.and_eq_true_iff.mp clear
    have other : c ≠ '?' := by
      rintro rfl
      cases here
    by_cases letter : Text.isWordChar c = true
    · have shut : opensName (some c) = false := by simp [opensName, letter]
      have percent : c ≠ '%' := by
        rintro rfl
        exact absurd letter (by decide)
      rw [fillPlaces_char other, percent_single percent, List.singleton_append, List.dropWhile_cons, if_pos letter,
        runsOn, List.dropWhile_cons, if_pos letter]
      exact ih (by simpa [shut] using clear)
    · have first : (fillPlaces literals (dialect.percent (c :: rest))).head? = some c :=
        head_fillPlaces other literals rest
      obtain ⟨more, found⟩ := List.head?_eq_some_iff.mp first
      rw [found, runsOn, List.dropWhile_cons, if_neg letter, List.dropWhile_cons, if_neg letter]
      simp [other]

/-- A colon behind a backslash of a clear text is followed by a word and another colon. -/
theorem runs_behind_slash {opens : Bool} {rest : List Char} (here : isClearAt opens '\\' rest = true)
    (clear : isClear false rest = true) (literals : List String)
    (colon : (fillPlaces literals (dialect.percent rest)).head? = some ':') :
    ((fillPlaces literals (dialect.percent rest)).tail.dropWhile Text.isWordChar).head? = some ':' := by
  cases rest with
  | nil =>
    rw [percent_nil] at colon
    cases colon
  | cons d more =>
    obtain ⟨behind, clear⟩ := Bool.and_eq_true_iff.mp clear
    have other : d ≠ '?' := by
      rintro rfl
      cases behind
    rw [head_fillPlaces other] at colon
    cases colon
    have runs : runsOn more = true := by simpa [isClearAt] using here
    rw [fillPlaces_char other, percent_single (by decide)]
    exact (head_dropWhile_fillPlaces clear literals).mpr runs

/-- The escapes of a clear text are those of the literals in its places. -/
theorem unescapeColons_fillPlaces {opens : Bool} {chars : List Char} (clear : isClear opens chars = true)
    (literals : List String) :
    unescapeColons (fillPlaces literals (dialect.percent chars)) =
      fillPlaces (literals.map unescaped) (dialect.percent chars) := by
  induction chars generalizing opens literals with
  | nil =>
    rw [percent_nil]
    rfl
  | cons c rest ih =>
    obtain ⟨here, clear⟩ := Bool.and_eq_true_iff.mp clear
    have tail := ih clear
    by_cases place : c = '?'
    · subst place
      obtain ⟨_, apart⟩ : opens = true ∧ standsApart rest = true := Bool.and_eq_true_iff.mp here
      have first : ((literals.map unescaped).headD "?").toList = unescapeColons (literals.headD "?").toList := by
        cases literals with
        | nil => rfl
        | cons literal more => exact String.toList_ofList
      rw [fillPlaces_place, fillPlaces_place, unescapeColons_apart (.of_standsApart apart _), tail, first,
        List.map_tail]
    · rw [fillPlaces_char place, fillPlaces_char place, ← tail]
      by_cases slash : c = '\\'
      · subst slash
        have single : dialect.percent ['\\'] = ['\\'] := percent_single (by decide)
        have kept : ¬((fillPlaces literals (dialect.percent rest)).head? = some ':' ∧
            ((fillPlaces literals (dialect.percent rest)).tail.dropWhile Text.isWordChar).head? ≠ some ':') :=
          fun both => both.2 (runs_behind_slash here clear literals both.1)
        rw [single, List.singleton_append, unescapeColons_slash, if_neg kept]
        rfl
      · exact unescapeColons_append (fun inside => slash (mem_percent_single inside).symm) _

theorem unescaped_plain {literal : String} (plain : '\\' ∉ literal.toList) : unescaped literal = literal := by
  have same := unescapeColons_append plain []
  rw [List.append_nil] at same
  rw [unescaped, same]
  exact (congrArg String.ofList (List.append_nil _)).trans String.ofList_toList

theorem length_unescapeColons (chars : List Char) :
    (unescapeColons chars).length ≤ chars.length ∧
      ((unescapeColons chars).length = chars.length → unescapeColons chars = chars) := by
  fun_induction unescapeColons chars with
  | case1 => exact ⟨Nat.le_refl 0, fun _ => rfl⟩
  | case2 rest runs ih | case4 c rest other ih =>
    exact ⟨Nat.succ_le_succ ih.1, fun same => congrArg _ (ih.2 (Nat.succ.inj same))⟩
  | case3 rest ends ih =>
    simp only [List.length_cons]
    exact ⟨by omega, fun same => by omega⟩

theorem length_unescaped (literal : String) : (unescaped literal).toList.length ≤ literal.toList.length := by
  rw [unescaped, String.toList_ofList]
  exact (length_unescapeColons _).1

theorem length_fillPlaces_unescaped (literals : List String) (chars : List Char) :
    (fillPlaces (literals.map unescaped) chars).length ≤ (fillPlaces literals chars).length := by
  induction chars generalizing literals with
  | nil => exact Nat.le_refl 0
  | cons c rest ih =>
    have tail := ih literals.tail
    rw [fillPlaces, fillPlaces]
    split
    · rw [← List.map_tail, List.length_append, List.length_append]
      cases literals with
      | nil => exact Nat.add_le_add_left tail _
      | cons literal more => exact Nat.add_le_add (length_unescaped literal) tail
    · exact Nat.succ_le_succ (ih literals)

/-- A literal that loses a backslash changes the text around it. -/
theorem fillPlaces_unescaped_iff {literals : List String} {chars : List Char}
    (many : chars.count '?' = literals.length) :
    fillPlaces (literals.map unescaped) (dialect.percent chars) = fillPlaces literals (dialect.percent chars) ↔
      ∀ literal ∈ literals, unescaped literal = literal := by
  constructor
  · intro same
    induction chars generalizing literals with
    | nil =>
      rw [List.eq_nil_of_length_eq_zero many.symm]
      exact nofun
    | cons c rest ih =>
      by_cases place : c = '?'
      · subst place
        rw [List.count_cons_self] at many
        obtain ⟨literal, more, rfl⟩ := List.exists_cons_of_length_eq_add_one many.symm
        rw [fillPlaces_place, fillPlaces_place] at same
        have first := length_unescaped literal
        have others := length_fillPlaces_unescaped more (dialect.percent rest)
        have lengths := congrArg List.length same
        simp only [List.length_append, List.map_cons, List.headD_cons, List.tail_cons] at lengths same
        obtain ⟨kept, same⟩ := List.append_inj same (by omega)
        exact List.forall_mem_cons.mpr ⟨String.toList_injective kept, ih (Nat.succ.inj many) same⟩
      · rw [List.count_cons_of_ne place] at many
        rw [fillPlaces_char place, fillPlaces_char place, List.append_cancel_left_eq] at same
        exact ih many same
  · intro kept
    rw [(List.map_congr_left kept).trans (List.map_id _)]

end Sql.Fragment

end DataGrid
