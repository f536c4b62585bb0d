import DataGrid.Proofs.UniformGroups

/-! When lists that are read as one say the same as all of them, each read on its own. The words between the
values decide it: either no more than one list holds anything, or no `or` stands behind the first value. -/

namespace DataGrid

open Sql

/-- Whether lists with these words say the same together as each on its own, whatever their values. -/
def ReadApart (words : List (List Junction)) : Prop :=
  ∀ values : List (List (Junction × Truth)), values.map (List.map Prod.fst) = words →
    ((Truth.fold values.flatten).getD .yes = .yes ↔ ∀ part ∈ values, (Truth.fold part).getD .yes = .yes)

/-- At most one of the lists holds anything, or only the first word of all may be an `or`. -/
def Straight (words : List (List Junction)) : Prop :=
  (words.filter (!·.isEmpty)).length ≤ 1 ∨ ∀ word ∈ words.flatten.tail, word = .and

namespace Sql.Truth

private theorem foldFrom_before (before current : Truth) (values : List (Junction × Truth)) :
    foldFrom before current values = before.or (foldFrom .no current values) := by
  induction values generalizing before current with
  | nil => rfl
  | cons head rest ih =>
    match head with
    | (.and, value) => exact ih before (current.and value)
    | (.or, value) =>
      rw [foldFrom, foldFrom, ih (before.or current), ih (Truth.no.or current), no_or, or_assoc]

private theorem foldFrom_append (before current : Truth) (first rest : List (Junction × Truth)) (value : Truth) :
    foldFrom before current (first ++ (.or, value) :: rest) =
      (foldFrom before current first).or (foldFrom .no value rest) := by
  induction first generalizing before current with
  | nil => exact foldFrom_before (before.or current) value rest
  | cons head more ih =>
    match head with
    | (.and, _) => exact ih before _
    | (.or, _) => exact ih _ _

theorem fold_append_or {first rest : List (Junction × Truth)} {value left right : Truth}
    (one : fold first = some left) (other : fold ((.or, value) :: rest) = some right) :
    fold (first ++ (.or, value) :: rest) = some (left.or right) := by
  match first with
  | [] => cases one
  | (junction, head) :: more =>
    cases one
    cases other
    exact congrArg some (foldFrom_append .no head more rest value)

private theorem foldFrom_constant {value : Truth} (decided : value = .no ∨ value = .yes) (words : List Junction)
    (before : Truth) : foldFrom before value (words.map (·, value)) = before.or value := by
  induction words generalizing before with
  | nil => rfl
  | cons word rest ih =>
    cases word with
    | and => rcases decided with rfl | rfl <;> exact ih before
    | or =>
      have doubled : (before.or value).or value = before.or value := by
        rcases decided with rfl | rfl <;> simp
      exact (ih (before.or value)).trans doubled

theorem fold_constant {value : Truth} (decided : value = .no ∨ value = .yes) {words : List Junction}
    (some_ : words ≠ []) : fold (words.map (·, value)) = some value := by
  match words with
  | [] => exact absurd rfl some_
  | word :: rest => simp [fold, foldFrom_constant decided]

/-- The first word of a list does not count. -/
theorem fold_yes {values : List (Junction × Truth)} (straight : Uniform .and values.tail) :
    (fold values).getD .yes = .yes ↔ ∀ entry ∈ values, entry.2 = .yes := by
  match values with
  | [] => simp [fold]
  | (word, value) :: rest =>
    have uniform : Uniform .and ((.and, value) :: rest) := by
      intro entry member
      rcases List.mem_cons.mp member with rfl | later
      · rfl
      · exact straight entry later
    have same : fold ((word, value) :: rest) = fold ((.and, value) :: rest) := rfl
    rw [same, fold_uniform uniform, if_neg (by simp), Option.getD_some, join_and_eq_yes, List.map_cons,
      List.forall_mem_cons, List.forall_mem_cons, List.forall_mem_map]

end Sql.Truth

private theorem readApart_single {values : List (List (Junction × Truth))}
    (few : (values.filter (!·.isEmpty)).length ≤ 1) :
    (Truth.fold values.flatten).getD .yes = .yes ↔ ∀ part ∈ values, (Truth.fold part).getD .yes = .yes := by
  have whole : values.flatten = (values.filter (!·.isEmpty)).flatten := List.flatten_filter_not_isEmpty.symm
  have live : (∀ part ∈ values, (Truth.fold part).getD .yes = .yes) ↔
      ∀ part ∈ values.filter (!·.isEmpty), (Truth.fold part).getD .yes = .yes := by
    constructor
    · exact fun each part member => each part (List.mem_of_mem_filter member)
    · intro each part member
      cases part with
      | nil => rfl
      | cons head rest => exact each _ (List.mem_filter.mpr ⟨member, rfl⟩)
  rw [whole, live]
  generalize values.filter (!·.isEmpty) = kept at few
  match kept with
  | [] => simp [Truth.fold]
  | [part] => simp
  | _ :: _ :: _ => simp at few

private theorem mem_tail_append {α : Type} {item : α} {first rest : List α} (member : item ∈ first.tail) :
    item ∈ (first ++ rest).tail := by
  cases first with
  | nil => cases member
  | cons _ _ => exact List.mem_append_left _ member

private theorem readApart_straight {values : List (List (Junction × Truth))}
    (straight : ∀ word ∈ (values.map (List.map Prod.fst)).flatten.tail, word = .and) :
    (Truth.fold values.flatten).getD .yes = .yes ↔ ∀ part ∈ values, (Truth.fold part).getD .yes = .yes := by
  have uniform : Uniform .and values.flatten.tail := by
    intro entry member
    apply straight _
    rw [← List.map_flatten, ← List.map_tail]
    exact List.mem_map_of_mem member
  have parts : ∀ part ∈ values, Uniform .and part.tail := by
    intro part member entry later
    obtain ⟨before, after, rfl⟩ := List.append_of_mem member
    apply uniform entry
    rw [List.flatten_append, List.flatten_cons]
    cases before.flatten with
    | nil =>
      rw [List.nil_append]
      exact mem_tail_append later
    | cons _ _ => exact List.mem_append_right _ (List.mem_append_left _ (List.mem_of_mem_tail later))
  rw [Truth.fold_yes uniform]
  constructor
  · intro each part member
    refine (Truth.fold_yes (parts part member)).mpr ?_
    exact fun entry present => each entry (List.mem_flatten_of_mem member present)
  · intro each entry member
    obtain ⟨part, present, among⟩ := List.mem_flatten.mp member
    exact (Truth.fold_yes (parts part present)).mp (each part present) entry among

/-- Lists with given words, worth one value up to an `or` behind the first word and another from there on. -/
private def cutAt (first rest : Truth) (before : List (List Junction)) (left right : List Junction)
    (after : List (List Junction)) : List (List (Junction × Truth)) :=
  before.map (List.map (·, first)) ++ (left.map (·, first) ++ (.or, rest) :: right.map (·, rest)) ::
    after.map (List.map (·, rest))

private theorem cutAt_words (first rest : Truth) (before after : List (List Junction)) (left right : List Junction) :
    (cutAt first rest before left right after).map (List.map Prod.fst) = before ++ (left ++ .or :: right) :: after := by
  have back (value : Truth) (words : List Junction) : (words.map (·, value)).map Prod.fst = words := by
    simp [Function.comp_def]
  have backs (value : Truth) (words : List (List Junction)) :
      (words.map (List.map (·, value))).map (List.map Prod.fst) = words := by
    rw [List.map_map]
    exact (List.map_congr_left fun part _ => back value part).trans (List.map_id' words)
  simp [cutAt, back, backs, -List.map_map]

private theorem cutAt_fold {first rest : Truth} {before after : List (List Junction)} {left right : List Junction}
    (decided : first = .no ∧ rest = .yes ∨ first = .yes ∧ rest = .no) (behind : before.flatten ++ left ≠ []) :
    Truth.fold (cutAt first rest before left right after).flatten = some .yes := by
  have whole : (cutAt first rest before left right after).flatten =
      (before.flatten ++ left).map (·, first) ++ (.or, rest) :: (right ++ after.flatten).map (·, rest) := by
    simp [cutAt, List.map_flatten]
  have start : Truth.fold ((before.flatten ++ left).map (·, first)) = some first :=
    Truth.fold_constant (by rcases decided with ⟨rfl, _⟩ | ⟨rfl, _⟩ <;> simp) behind
  have stop : Truth.fold ((Junction.or :: (right ++ after.flatten)).map (·, rest)) = some rest :=
    Truth.fold_constant (by rcases decided with ⟨_, rfl⟩ | ⟨_, rfl⟩ <;> simp) (List.cons_ne_nil _ _)
  rw [whole, Truth.fold_append_or start stop]
  rcases decided with ⟨rfl, rfl⟩ | ⟨rfl, rfl⟩ <;> rfl

private theorem ReadApart.absurd {words : List (List Junction)} (apart : ReadApart words)
    {values : List (List (Junction × Truth))} (same : values.map (List.map Prod.fst) = words)
    (yes : Truth.fold values.flatten = some .yes) {part : List Junction} (held : part ≠ [])
    (member : part.map (·, Truth.no) ∈ values) : False := by
  have each := (apart values same).mp (by rw [yes]; rfl) _ member
  rw [Truth.fold_constant (.inl rfl) held] at each
  cases each

/-- An `or` behind the first word stands in one of the lists, at its front or farther back. -/
private theorem or_behind {words : List (List Junction)} (found : .or ∈ words.flatten.tail) :
    ∃ before left right after, words = before ++ (left ++ .or :: right) :: after ∧ before.flatten ++ left ≠ [] := by
  cases whole : words.flatten with
  | nil =>
    rw [whole] at found
    cases found
  | cons head rest =>
    rw [whole] at found
    obtain ⟨middle, last, rfl⟩ := List.append_of_mem found
    have split : words.flatten = (head :: middle) ++ .or :: last := whole
    rcases List.flatten_eq_append_iff.mp split with
      ⟨before, after, rfl, one, other⟩ | ⟨before, left, word, right, after, rfl, one, other⟩
    · obtain ⟨none, right, after, rfl, _, _⟩ := List.flatten_eq_cons_iff.mp other.symm
      refine ⟨before ++ none, [], right, after, by simp, ?_⟩
      simp [← one]
    · cases other
      exact ⟨before, left, right, after, rfl, by simp [← one]⟩

/-- Lists with given words say the same together as each on its own, whatever their values, exactly when no more
than one of them holds anything or no `or` stands behind the first word. -/
theorem readApart_iff (words : List (List Junction)) : ReadApart words ↔ Straight words := by
  constructor
  · intro apart
    by_contra crooked
    obtain ⟨several, mixed⟩ := not_or.mp crooked
    obtain ⟨word, member, other⟩ : ∃ word ∈ words.flatten.tail, ¬ word = .and := by simpa using mixed
    have found : Junction.or ∈ words.flatten.tail := by
      cases word with
      | and => exact absurd rfl other
      | or => exact member
    obtain ⟨before, left, right, after, rfl, behind⟩ := or_behind found
    -- One side of the `or` is made true. The part that fails on the other side stands before the cut part when
    -- there is one, and behind it otherwise, since more than one part holds something.
    by_cases held : before.flatten = []
    · have more : ∃ part ∈ after, part ≠ [] := by
        by_contra none
        have first : before.filter (!·.isEmpty) = [] := List.filter_eq_nil_iff.mpr (by simpa using held)
        have last : after.filter (!·.isEmpty) = [] := List.filter_eq_nil_iff.mpr (by simpa using none)
        simp [first, last] at several
      obtain ⟨part, among, full⟩ := more
      apply apart.absurd (cutAt_words .yes .no before after left right) (cutAt_fold (.inr ⟨rfl, rfl⟩) behind) full
      exact List.mem_append_right _ (.tail _ (List.mem_map_of_mem among))
    · obtain ⟨part, among, full⟩ : ∃ part ∈ before, part ≠ [] := by simpa using held
      apply apart.absurd (cutAt_words .no .yes before after left right) (cutAt_fold (.inl ⟨rfl, rfl⟩) behind) full
      exact List.mem_append_left _ (List.mem_map_of_mem among)
  · rintro (few | straight) values rfl
    · apply readApart_single
      simpa [List.filter_map, Function.comp_def] using few
    · exact readApart_straight straight

end DataGrid
