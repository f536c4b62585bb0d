/-!
Splitting a text at a separator. A text is its segments with the separator between them, and no
segment holds the separator.
-/

namespace DataGrid.Text

/-- The segments between the separators: one more than there are separators. -/
def segments (separator : Char) : List Char → List (List Char)
  | [] => [[]]
  | c :: rest =>
    if c = separator then [] :: segments separator rest
    else
      match segments separator rest with
      | [] => [[c]]
      | first :: others => (c :: first) :: others

theorem segments_ne_nil (separator : Char) (chars : List Char) : segments separator chars ≠ [] := by
  cases chars with
  | nil => simp [segments]
  | cons c rest =>
    simp only [segments]
    split
    · simp
    · split <;> simp

theorem intercalate_segments (separator : Char) (chars : List Char) :
    [separator].intercalate (segments separator chars) = chars := by
  induction chars with
  | nil => rfl
  | cons c rest ih =>
    simp only [segments]
    split
    · next same =>
      subst same
      cases found : segments c rest with
      | nil => exact absurd found (segments_ne_nil c rest)
      | cons first others =>
        rw [found] at ih
        simpa [List.intercalate, List.intersperse] using ih
    · cases found : segments separator rest with
      | nil => exact absurd found (segments_ne_nil separator rest)
      | cons first others =>
        rw [found] at ih
        cases others with
        | nil => simpa [List.intercalate, List.intersperse] using ih
        | cons second more => simpa [List.intercalate, List.intersperse] using ih

theorem not_mem_segments (separator : Char) (chars : List Char) :
    ∀ segment ∈ segments separator chars, separator ∉ segment := by
  induction chars with
  | nil => simp [segments]
  | cons c rest ih =>
    simp only [segments]
    split
    · simpa using ih
    · next different =>
      cases found : segments separator rest with
      | nil => simpa using fun same => different same.symm
      | cons first others =>
        rw [found] at ih
        intro segment member
        rcases List.mem_cons.mp member with rfl | member
        · simp only [List.mem_cons, not_or]
          exact ⟨fun same => different same.symm, ih first (by simp)⟩
        · exact ih segment (by simp [member])

def splitString (separator : Char) (s : String) : List String :=
  (segments separator s.toList).map String.ofList

def splitLast? (separator : Char) (s : String) : Option (String × String) :=
  match (splitString separator s).reverse with
  | last :: before :: more =>
    some ((String.ofList [separator]).intercalate (before :: more).reverse, last)
  | _ => none

end DataGrid.Text
