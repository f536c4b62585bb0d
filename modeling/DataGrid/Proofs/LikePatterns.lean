import DataGrid.Proofs.LowerCase
import DataGrid.Search.Pattern
import Mathlib.Data.List.Infix

/-! What the pattern of a keyword matches. Keywords and patterns are texts in which some signs stand for a run of
characters or for any single one; they differ in which signs these are. A pattern matches what its keyword fits, or what
has a part that the keyword fits when the search is smart. -/

namespace DataGrid

/-- What a sign of a keyword or a pattern stands for. -/
inductive Role where
  | run | single | itself
  deriving DecidableEq, Repr

/-- A text fits a list of signs: it is made of a piece for each sign, in their order. -/
inductive Fits (role : Char → Role) : List Char → List Char → Prop where
  | nil : Fits role [] []
  | run {sign signs text} (part : List Char) (stands : role sign = .run) (behind : Fits role signs text) :
      Fits role (sign :: signs) (part ++ text)
  | single {sign signs text} (c : Char) (stands : role sign = .single) (behind : Fits role signs text) :
      Fits role (sign :: signs) (c :: text)
  | itself {sign signs text} (stands : role sign = .itself) (behind : Fits role signs text) :
      Fits role (sign :: signs) (sign :: text)

/-- The signs of `LIKE` without an escape character. -/
def likeRole (c : Char) : Role := if c = '%' then .run else if c = '_' then .single else .itself

/-- The wild cards of a keyword; without them every character stands for itself. -/
def keywordRole (wild : Bool) (c : Char) : Role :=
  if wild && c = '*' then .run else if wild && c = '?' then .single else .itself

/-- `LIKE` without an escape character, trying every run where a percent sign stands. -/
def like : List Char → List Char → Bool
  | [], text => text.isEmpty
  | sign :: signs, text =>
    match likeRole sign with
    | .run => text.tails.any (like signs)
    | .single => !text.isEmpty && like signs text.tail
    | .itself => text.head? == some sign && like signs text.tail

namespace Fits

variable {role other : Char → Role} {sign : Char} {signs text : List Char}

theorem nil_iff : Fits role [] text ↔ text = [] := by
  constructor
  · rintro ⟨⟩
    rfl
  · rintro rfl
    exact .nil

theorem run_iff (stands : role sign = .run) :
    Fits role (sign :: signs) text ↔ ∃ behind, behind <:+ text ∧ Fits role signs behind := by
  constructor
  · intro fits
    cases fits with
    | run part _ behind => exact ⟨_, List.suffix_append .., behind⟩
    | single _ no _ => simp [stands] at no
    | itself no _ => simp [stands] at no
  · rintro ⟨behind, ⟨part, rfl⟩, fits⟩
    exact .run part stands fits

theorem single_iff (stands : role sign = .single) :
    Fits role (sign :: signs) text ↔ ∃ c behind, text = c :: behind ∧ Fits role signs behind := by
  constructor
  · intro fits
    cases fits with
    | single c _ behind => exact ⟨c, _, rfl, behind⟩
    | run _ no _ => simp [stands] at no
    | itself no _ => simp [stands] at no
  · rintro ⟨c, behind, rfl, fits⟩
    exact .single c stands fits

theorem itself_iff (stands : role sign = .itself) :
    Fits role (sign :: signs) text ↔ ∃ behind, text = sign :: behind ∧ Fits role signs behind := by
  constructor
  · intro fits
    cases fits with
    | itself _ behind => exact ⟨_, rfl, behind⟩
    | run _ no _ => simp [stands] at no
    | single _ no _ => simp [stands] at no
  · rintro ⟨behind, rfl, fits⟩
    exact .itself stands fits

/-- A sign at the end that stands for a run leaves open what stands behind. -/
theorem append_run_iff (stands : role sign = .run) :
    Fits role (signs ++ [sign]) text ↔ ∃ part, part <+: text ∧ Fits role signs part := by
  induction signs generalizing text with
  | nil => simp [run_iff stands, nil_iff]
  | cons first rest ih =>
    rw [List.cons_append]
    cases kind : role first with
    | run =>
      simp only [run_iff kind, ih]
      constructor
      · rintro ⟨behind, ⟨before, rfl⟩, part, ⟨after, rfl⟩, fits⟩
        exact ⟨before ++ part, ⟨after, by simp⟩, part, List.suffix_append .., fits⟩
      · rintro ⟨_, ⟨after, rfl⟩, part, ⟨before, rfl⟩, fits⟩
        exact ⟨part ++ after, ⟨before, by simp⟩, part, List.prefix_append .., fits⟩
    | single =>
      simp only [single_iff kind, ih]
      constructor
      · rintro ⟨c, _, rfl, part, ⟨after, rfl⟩, fits⟩
        exact ⟨c :: part, ⟨after, rfl⟩, c, part, rfl, fits⟩
      · rintro ⟨_, ⟨after, rfl⟩, c, part, rfl, fits⟩
        exact ⟨c, part ++ after, rfl, part, List.prefix_append .., fits⟩
    | itself =>
      simp only [itself_iff kind, ih]
      constructor
      · rintro ⟨_, rfl, part, ⟨after, rfl⟩, fits⟩
        exact ⟨first :: part, ⟨after, rfl⟩, part, rfl, fits⟩
      · rintro ⟨_, ⟨after, rfl⟩, part, rfl, fits⟩
        exact ⟨part ++ after, rfl, part, List.prefix_append .., fits⟩

/-- With a run on either side, the signs between them are free to stand anywhere. -/
theorem enclosed_iff (stands : role sign = .run) :
    Fits role (sign :: signs ++ [sign]) text ↔ ∃ part, part <:+: text ∧ Fits role signs part := by
  rw [List.cons_append, run_iff stands]
  simp only [append_run_iff stands]
  constructor
  · rintro ⟨behind, suffix, part, start, fits⟩
    exact ⟨part, start.isInfix.trans suffix.isInfix, fits⟩
  · rintro ⟨part, ⟨before, after, rfl⟩, fits⟩
    exact ⟨part ++ after, ⟨before, by simp⟩, part, List.prefix_append .., fits⟩

/-- Signs that are rewritten without a change of what they stand for fit the same texts. -/
theorem map_iff {rewrite : Char → Char} (kept : ∀ c ∈ signs, other (rewrite c) = role c)
    (letters : ∀ c ∈ signs, role c = .itself → rewrite c = c) :
    Fits other (signs.map rewrite) text ↔ Fits role signs text := by
  induction signs generalizing text with
  | nil => simp [nil_iff]
  | cons first rest ih =>
    obtain ⟨same, kept⟩ := List.forall_mem_cons.mp kept
    obtain ⟨letter, letters⟩ := List.forall_mem_cons.mp letters
    rw [List.map_cons]
    cases kind : role first with
    | run => simp only [run_iff kind, run_iff (same.trans kind), ih kept letters]
    | single => simp only [single_iff kind, single_iff (same.trans kind), ih kept letters]
    | itself =>
      have plain : other first = .itself := by rw [← letter kind, same, kind]
      simp only [letter kind, itself_iff kind, itself_iff plain, ih kept letters]

end Fits

/-- The matcher finds a way to fit a text exactly when there is one. -/
theorem like_iff {signs text : List Char} : like signs text = true ↔ Fits likeRole signs text := by
  induction signs generalizing text with
  | nil => simp [like, Fits.nil_iff]
  | cons sign rest ih =>
    rw [like]
    cases kind : likeRole sign with
    | run => simp [Fits.run_iff kind, List.any_eq_true, List.mem_tails, ih]
    | single => cases text <;> simp [Fits.single_iff kind, ih]
    | itself => cases text <;> simp [Fits.itself_iff kind, ih, and_assoc]

theorem likeRole_plain {c : Char} (percent : c ≠ '%') (underscore : c ≠ '_') : likeRole c = .itself := by
  rw [likeRole, if_neg percent, if_neg underscore]

theorem wildcardSign_letter {c : Char} (stands : keywordRole true c = .itself) : wildcardSign c = c := by
  by_cases run : c = '*'
  · simp [keywordRole, run] at stands
  · by_cases single : c = '?'
    · simp [keywordRole, single] at stands
    · rw [wildcardSign, if_neg run, if_neg single]

theorem likeRole_wildcardSign {c : Char} (percent : c ≠ '%') (underscore : c ≠ '_') :
    likeRole (wildcardSign c) = keywordRole true c := by
  by_cases run : c = '*'
  · subst run
    rfl
  · by_cases single : c = '?'
    · subst single
      rfl
    · have stands : keywordRole true c = .itself := by simp [keywordRole, run, single]
      rw [wildcardSign_letter stands, likeRole_plain percent underscore, stands]

namespace Config

variable {config : Config} {keyword : List Char}

/-- A keyword as it is looked for: in lower case where case does not count. -/
def folded (config : Config) (keyword : List Char) : List Char :=
  if config.caseInsensitive.truthy then Text.lower keyword else keyword

/-- The signs of `LIKE` for a keyword, which are its characters but for the wild cards. -/
def expanded (config : Config) (keyword : List Char) : List Char :=
  if config.useWildcards.truthy then (config.folded keyword).map wildcardSign else config.folded keyword

theorem patternChars_eq (config : Config) (keyword : List Char) :
    config.patternChars keyword =
      if config.smart.truthy then '%' :: config.expanded keyword ++ ['%'] else config.expanded keyword := rfl

theorem mem_folded {sign : Char} (basic : Text.Basic sign) (unlettered : sign.isAlpha = false)
    (member : sign ∈ config.folded keyword) : sign ∈ keyword := by
  unfold folded at member
  split at member
  · exact Text.mem_lower basic unlettered member
  · exact member

/-- What the signs stand for is what the characters of the keyword stand for. -/
theorem expanded_fits (percent : '%' ∉ keyword) (underscore : '_' ∉ keyword) (text : List Char) :
    Fits likeRole (config.expanded keyword) text ↔
      Fits (keywordRole config.useWildcards.truthy) (config.folded keyword) text := by
  have plain : ∀ c ∈ config.folded keyword, c ≠ '%' ∧ c ≠ '_' := by
    intro c member
    constructor
    · rintro rfl
      exact percent (mem_folded (by decide) (by decide) member)
    · rintro rfl
      exact underscore (mem_folded (by decide) (by decide) member)
  unfold expanded
  cases config.useWildcards.truthy with
  | true =>
    exact Fits.map_iff (fun c member => likeRole_wildcardSign (plain c member).1 (plain c member).2)
      fun c _ stands => wildcardSign_letter stands
  | false =>
    have kept : ∀ c ∈ config.folded keyword, likeRole (id c) = keywordRole false c :=
      fun c member => likeRole_plain (plain c member).1 (plain c member).2
    simpa using Fits.map_iff kept fun _ _ _ => rfl

/-- Under `LIKE`, the pattern of a keyword that has none of its signs matches the texts that the keyword fits, or those
of which a part does when the search is smart. -/
theorem like_pattern {keyword : String} (percent : '%' ∉ keyword.toList) (underscore : '_' ∉ keyword.toList)
    (text : String) :
    like (config.pattern keyword).toList text.toList = true ↔
      if config.smart.truthy then
        ∃ part, part <:+: text.toList ∧
          Fits (keywordRole config.useWildcards.truthy) (config.folded keyword.toList) part
      else Fits (keywordRole config.useWildcards.truthy) (config.folded keyword.toList) text.toList := by
  rw [pattern, String.toList_ofList, patternChars_eq, like_iff]
  split
  · rw [Fits.enclosed_iff rfl]
    exact exists_congr fun part => and_congr_right fun _ => expanded_fits percent underscore part
  · exact expanded_fits percent underscore text.toList

private def anywhere : Config := { useWildcards := .bool true }

theorem like_pattern_anywhere :
    like (anywhere.pattern "B?r*").toList "in bern".toList = true ∧
      ∃ part, part <:+: "in bern".toList ∧ Fits (keywordRole true) "b?r*".toList part := by
  have fits : Fits (keywordRole true) "b?r*".toList "ber".toList :=
    .itself rfl (.single 'e' rfl (.itself rfl (.run [] rfl .nil)))
  have held : ∃ part, part <:+: "in bern".toList ∧ Fits (keywordRole true) "b?r*".toList part :=
    ⟨_, ⟨"in ".toList, "n".toList, by decide⟩, fits⟩
  exact ⟨(@like_pattern anywhere "B?r*" (by decide) (by decide) "in bern").mpr held, held⟩

end Config

end DataGrid
