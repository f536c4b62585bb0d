import DataGrid.Proofs.RegexReading

/-! Lower case and the reading of regular expressions. A pattern in lower case is read as the expression of the pattern
with every leaf in lower case: its characters and the ends of its ranges are, and its escapes in capitals have become
those of the classes themselves. -/

namespace DataGrid.Regex

open Text

def Member.lowered : Member → Member
  | char c => char (lowerChar c)
  | range low high => range (lowerChar low) (lowerChar high)
  | escape kind _ => escape kind false

def Leaf.lowered : Leaf → Leaf
  | any => any
  | oneOf outside members => oneOf outside (members.map Member.lowered)
  | boundary _ => boundary false
  | start => start
  | finish => finish

def Escape.lowered : Escape → Escape
  | member content => member content.lowered
  | boundary _ => boundary false

def State.lowered : State → State
  | inside first outside members => inside first outside (members.map Member.lowered)
  | held outside members c => held outside (members.map Member.lowered) (lowerChar c)
  | range outside members low => range outside (members.map Member.lowered) (lowerChar low)
  | insideEscaped outside members => insideEscaped outside (members.map Member.lowered)
  | state => state

def Step.lowered : Step → Step := Prod.map State.lowered (Option.map (Token.map Leaf.lowered))

/-- Signs are no letters, so lower case neither makes nor takes one. -/
theorem signOf_lowerChar (c : Char) : signOf (lowerChar c) = signOf c := by
  have unlettered : ∀ entry ∈ signs, Basic entry.1 ∧ entry.1.isAlpha = false := by decide
  unfold signOf
  generalize signs = table at unlettered
  induction table with
  | nil => rfl
  | cons entry rest ih =>
    obtain ⟨⟨basic, sign⟩, others⟩ := List.forall_mem_cons.mp unlettered
    have same : (lowerChar c == entry.1) = (c == entry.1) := by
      rw [Bool.eq_iff_iff, beq_iff_eq, beq_iff_eq, lowerChar_eq_sign basic sign]
    rw [List.lookup_cons, List.lookup_cons, same, ih others]

private theorem escapeOf_foreign {c : Char} (foreign : ¬ Basic c) : escapeOf c = some (.member (.char c)) := by
  unfold escapeOf
  split
  case h_9 =>
    rw [if_neg]
    exact fun alphanum => foreign (.of_alphanum alphanum)
  all_goals exact absurd (by decide) foreign

theorem escapeOf_lowerChar {c : Char} (other : c ≠ kelvin) :
    escapeOf (lowerChar c) = (escapeOf c).map Escape.lowered := by
  by_cases basic : Basic c
  · exact basic.listed (by decide +kernel)
  · rw [escapeOf_foreign basic, escapeOf_foreign (lowerChar_foreign basic other)]
    rfl

theorem plainStep_lowered (c : Char) : plainStep (lowerChar c) = (plainStep c).lowered := by
  rw [plainStep, plainStep, signOf_lowerChar]
  split <;> rfl

theorem insideStep_lowered (first outside : Bool) (members : List Member) (c : Char) :
    insideStep first outside (members.map Member.lowered) (lowerChar c) =
      (insideStep first outside members c).map Step.lowered := by
  unfold insideStep
  rw [signOf_lowerChar]
  split <;> rfl

theorem step_lowered (state : State) {c : Char} (other : c ≠ kelvin) :
    step state.lowered (lowerChar c) = (step state c).map Step.lowered := by
  cases state with
  | plain => exact congrArg some (plainStep_lowered c)
  | repeated =>
    simp only [State.lowered, step, signOf_lowerChar, plainStep_lowered]
    split <;> rfl
  | escaped =>
    simp only [State.lowered, step, escapeOf_lowerChar other]
    cases escapeOf c with
    | none => rfl
    | some content => cases content <;> rfl
  | least count =>
    simp only [State.lowered, step, signOf_lowerChar]
    split <;> rfl
  | most least count =>
    simp only [State.lowered, step, signOf_lowerChar]
    split <;> rfl
  | bracket =>
    simp only [State.lowered, step, signOf_lowerChar]
    split
    · rfl
    · exact insideStep_lowered true false [] c
  | inside first outside members => exact insideStep_lowered first outside members c
  | held outside members low =>
    simp only [State.lowered, step, signOf_lowerChar]
    split
    · rfl
    · rw [← insideStep_lowered, List.map_append]
      rfl
  | range outside members low =>
    simp only [State.lowered, step, signOf_lowerChar]
    have dash : lowerChar '-' = '-' := by decide
    split <;> simp [Step.lowered, State.lowered, Token.map, Leaf.lowered, Member.lowered, dash]
  | insideEscaped outside members =>
    simp only [State.lowered, step, escapeOf_lowerChar other]
    cases escapeOf c with
    | none => rfl
    | some content =>
      cases content with
      | boundary => rfl
      | member content =>
        cases content <;> simp [Step.lowered, State.lowered, Escape.lowered, Member.lowered]

theorem final_lowered (state : State) : state.lowered.final = state.final := by cases state <;> rfl

theorem scanFrom_lowered (state : State) {chars : List Char} (foldable : kelvin ∉ chars) :
    scanFrom state.lowered (chars.map lowerChar) =
      (scanFrom state chars).map (List.map (Token.map Leaf.lowered)) := by
  induction chars generalizing state with
  | nil =>
    rw [List.map_nil, scanFrom, scanFrom, final_lowered]
    split <;> rfl
  | cons c rest ih =>
    rw [List.mem_cons, not_or] at foldable
    rw [List.map_cons, scanFrom, scanFrom, step_lowered state (Ne.symm foldable.1)]
    cases step state c with
    | none => rfl
    | some taken =>
      obtain ⟨next, token⟩ := taken
      have later : scanFrom next.lowered (rest.map lowerChar) = _ := ih next foldable.2
      simp only [Option.map_some, Step.lowered, Prod.map_apply, Option.bind_eq_bind, Option.bind_some, later]
      cases scanFrom next rest <;> cases token <;> rfl

/-- A pattern in lower case is read as the expression of the pattern with its leaves in lower case. -/
theorem read_lowered {pattern : List Char} (foldable : kelvin ∉ pattern) :
    read (pattern.map lowerChar) = (read pattern).map (map Leaf.lowered) := by
  have scanned : scanFrom .plain (pattern.map lowerChar) = _ := scanFrom_lowered .plain foldable
  rw [read, read, scanned]
  cases scanFrom .plain pattern with
  | none => rfl
  | some tokens => exact parse_map Leaf.lowered tokens

end DataGrid.Regex
