import DataGrid.Config
import DataGrid.Proofs.SortTexts

/-! Templates that say nothing with their percent signs but where texts go, or a doubled one. In those the places that
are counted are the places that are filled, and as many texts as there are places can always be put in. -/

namespace DataGrid

namespace Template

/-- Whether a template is plain, and no letter of a place stands behind a doubled percent sign. -/
def isClear : List Char → Bool
  | [] => true
  | '%' :: '%' :: 's' :: _ => false
  | '%' :: '%' :: rest | '%' :: 's' :: rest => isClear rest
  | '%' :: _ => false
  | _ :: rest => isClear rest

/-- A text as a template has to write it, with its percent signs doubled. -/
def doubled : List Char → List Char
  | [] => []
  | '%' :: rest => '%' :: '%' :: doubled rest
  | c :: rest => c :: doubled rest

def verbatim (content : String) : String := String.ofList (doubled content.toList)

theorem isPlain_of_isClear {chars : List Char} (clear : isClear chars = true) : isPlain chars = true := by
  fun_induction isClear chars with
  | case1 => rfl
  | case2 => cases clear
  | case3 rest _ ih => exact ih clear
  | case4 rest ih => exact ih clear
  | case5 => cases clear
  | case6 c rest ends quoted named other ih =>
    rw [isPlain.eq_5 c rest quoted named other]
    exact ih clear

/-- In a clear template, the places that are counted are those that are filled. -/
theorem stretches_of_isClear {chars : List Char} (clear : isClear chars = true) :
    (stretches chars).length = Config.countPlaces chars + 1 := by
  fun_induction isClear chars with
  | case1 => rfl
  | case2 => cases clear
  | case3 rest apart ih =>
    have passed : Config.countPlaces ('%' :: '%' :: rest) = Config.countPlaces rest := by
      rw [Config.countPlaces.eq_2 '%' ('%' :: rest) (by simp), Config.countPlaces.eq_2 '%' rest fun more _ => apart more]
    rw [stretches, extend_length _ (stretches_ne_nil rest), passed]
    exact ih clear
  | case4 rest ih => exact congrArg (· + 1) (ih clear)
  | case5 => cases clear
  | case6 c rest ends quoted named other ih =>
    rw [stretches.eq_4 c rest quoted named, extend_length _ (stretches_ne_nil rest),
      Config.countPlaces.eq_2 c rest fun more => named more]
    exact ih clear

theorem map_doubled_extend {c : Char} (other : c ≠ '%') {stretches : List (List Char)} (some : stretches ≠ []) :
    (extend c stretches).map doubled = extend c (stretches.map doubled) := by
  cases stretches with
  | nil => exact absurd rfl some
  | cons first others => rw [extend, List.map_cons, List.map_cons, extend, doubled.eq_3 c first other]

theorem map_doubled_percent {stretches : List (List Char)} (some : stretches ≠ []) :
    (extend '%' stretches).map doubled = extend '%' (extend '%' (stretches.map doubled)) := by
  cases stretches with
  | nil => exact absurd rfl some
  | cons first others => rfl

/-- A plain template is what its stretches say, with the places between them. -/
theorem weave_doubled {chars : List Char} (plain : isPlain chars = true) {count : Nat}
    (many : (stretches chars).length = count + 1) :
    weave ((stretches chars).map doubled) (List.replicate count "%s") = chars := by
  fun_induction isPlain chars generalizing count with
  | case1 =>
    obtain rfl : count = 0 := by simpa [stretches] using many.symm
    rfl
  | case2 rest ih =>
    have some := stretches_ne_nil rest
    have some' : (stretches rest).map doubled ≠ [] := by simpa using some
    rw [stretches, extend_length _ some] at many
    rw [stretches, map_doubled_percent some, weave_extend _ (by unfold extend; split <;> simp), weave_extend _ some',
      ih plain many]
  | case3 rest ih =>
    have some := List.length_pos_iff.mpr (stretches_ne_nil rest)
    rw [stretches, List.length_cons] at many
    obtain ⟨count, rfl⟩ : ∃ left, count = left + 1 := ⟨count - 1, by omega⟩
    have woven := ih plain (Nat.succ.inj many)
    exact congrArg (['%', 's'] ++ ·) woven
  | case4 => cases plain
  | case5 c rest quoted named other ih =>
    have some := stretches_ne_nil rest
    have some' : (stretches rest).map doubled ≠ [] := by simpa using some
    rw [stretches.eq_4 c rest quoted named, extend_length _ some] at many
    rw [stretches.eq_4 c rest quoted named, map_doubled_extend other some, weave_extend _ some', ih plain many]

/-- A plain template takes any texts, if they are as many as its places. -/
theorem fillFrom_stretches {size fuel : Nat} {chars : List Char} {texts : List String} (enough : chars.length < fuel)
    (plain : isPlain chars = true) (many : (stretches chars).length = texts.length + 1) :
    fillFrom size fuel chars texts = .ok (weave (stretches chars) texts) := by
  fun_induction isPlain chars generalizing fuel texts
  all_goals obtain ⟨fuel, rfl⟩ : ∃ left, fuel = left + 1 := ⟨fuel - 1, by omega⟩
  case case1 =>
    obtain rfl := List.eq_nil_of_length_eq_zero (Nat.succ.inj many).symm
    rfl
  case case2 rest ih =>
    have some := stretches_ne_nil rest
    rw [stretches, extend_length _ some] at many
    have filled := @ih fuel texts (by simp at enough; omega) plain many
    have step : fillFrom size (fuel + 1) ('%' :: '%' :: rest) texts =
        (fillFrom size fuel rest texts).map ('%' :: ·) := rfl
    rw [step, filled, stretches, weave_extend _ some]
    rfl
  case case3 rest ih =>
    cases texts with
    | nil => exact absurd (List.eq_nil_of_length_eq_zero (Nat.succ.inj many)) (stretches_ne_nil rest)
    | cons content others =>
      have filled := @ih fuel others (by simp at enough; omega) plain (Nat.succ.inj many)
      have step : fillFrom size (fuel + 1) ('%' :: 's' :: rest) (content :: others) =
          (fillPlace ⟨false, none, none, 's', rest⟩ (size - rest.length - 1) content >>= fun shown =>
            (fillFrom size fuel rest others).map (shown ++ ·)) := rfl
      rw [step, fillPlace_plain, Except.ok_bind, filled]
      rfl
  case case4 => cases plain
  case case5 c rest quoted named other ih =>
    have some := stretches_ne_nil rest
    rw [stretches.eq_4 c rest quoted named, extend_length _ some] at many
    have filled := @ih fuel texts (by simp at enough; omega) plain many
    rw [fillFrom, if_pos other, filled, stretches.eq_4 c rest quoted named, weave_extend _ some]
    rfl

/-- A clear template with two places stands for what is written around a column and its direction. -/
theorem fill_clear {template : String} (clear : isClear template.toList = true)
    (two : Config.countPlaces template.toList = 2) :
    ∃ before between after, template = verbatim before ++ "%s" ++ verbatim between ++ "%s" ++ verbatim after ∧
      ∀ column direction, fill template [column, direction] = .ok (before ++ column ++ between ++ direction ++ after) := by
  have plain := isPlain_of_isClear clear
  have three : (stretches template.toList).length = 2 + 1 := by rw [stretches_of_isClear clear, two]
  have woven := weave_doubled plain three
  have filled (column direction : String) := @fillFrom_stretches template.length (template.length + 1) template.toList
    [column, direction] (by rw [String.length_toList]; omega) plain three
  match found : stretches template.toList with
  | [before, between, after] =>
    refine ⟨String.ofList before, String.ofList between, String.ofList after, ?_, ?_⟩
    · rw [← String.toList_inj, ← woven, found]
      simp [verbatim, weave, List.replicate]
    · intro column direction
      rw [fill, filled, found]
      simp [weave, String.ofList_append, String.append_assoc]
  | [] | [_] | [_, _] | _ :: _ :: _ :: _ :: _ =>
    rw [found] at three
    simp at three

end Template

end DataGrid
