import DataGrid.Proofs.BlankedValues
import DataGrid.Proofs.MethodConditions
import DataGrid.Proofs.TwinSearches

/-! Named overrides in which the mark of the keyword stands in the place of a value or of bindings, and nowhere else.
Whatever the keywords are, such overrides add conditions that are the same but for the values that are bound. -/

namespace DataGrid

open Sql

variable {adapter : Adapter}

namespace Value

def isMarkedText : Value → Bool
  | .text s => Query.occursIn ['$', '1'] s.toList
  | _ => false

/-- Whether the mark of the keyword occurs in a parameter of an override. -/
def marked : Value → Bool
  | .list items => items.any isMarkedText
  | value => value.isMarkedText

/-- One value, or two texts, or two lists. -/
inductive Alike : Value → Value → Prop where
  | same (value : Value) : Alike value value
  | text (first second : String) : Alike (.text first) (.text second)
  | list (first second : List Value) : Alike (.list first) (.list second)

theorem fill_alike (value : Value) (keyword keyword' : String) : Alike (value.fill keyword) (value.fill keyword') := by
  cases value with
  | text s => exact .text _ _
  | list items => exact .list _ _
  | _ => exact .same _

theorem fillKeyword_unmarked (keyword : List Char) {chars : List Char}
    (unmarked : Query.occursIn ['$', '1'] chars = false) : fillKeyword keyword chars = chars := by
  fun_induction fillKeyword keyword chars with
  | case1 => rfl
  | case2 rest ih => cases unmarked
  | case3 c rest other ih =>
    rw [Query.occursIn, Bool.or_eq_false_iff] at unmarked
    rw [ih unmarked.2]

private theorem fillText_unmarked (keyword : String) {value : Value} (unmarked : value.isMarkedText = false) :
    value.fillText keyword = value := by
  cases value with
  | text s =>
    rw [fillText, fillKeyword_unmarked keyword.toList unmarked, String.ofList_toList]
  | _ => rfl

theorem fill_unmarked (keyword : String) {value : Value} (unmarked : value.marked = false) :
    value.fill keyword = value := by
  cases value with
  | list items =>
    have each : items.map (fillText keyword) = items.map id := by
      apply List.map_congr_left
      intro item member
      exact fillText_unmarked keyword (by simpa using List.any_eq_false.mp unmarked item member)
    rw [fill, each, List.map_id]
  | text s =>
    have text : (Value.text s).isMarkedText = false := unmarked
    exact fillText_unmarked keyword text
  | _ => rfl

end Value

/-- Lists of values that may differ in one place, and there only as texts or lists do. -/
structure AgreeBut (place : Option Nat) (first second : List Value) : Prop where
  elsewhere (index : Nat) (apart : place ≠ some index) : first[index]? = second[index]?
  each : List.Forall₂ Value.Alike first second

namespace AgreeBut

variable {place : Option Nat} {first second : List Value}

theorem eq (agree : AgreeBut none first second) : first = second := by
  apply List.ext_getElem?
  intro index
  exact agree.elsewhere index (by simp)

theorem refl (place : Option Nat) (values : List Value) : AgreeBut place values values :=
  ⟨fun _ _ => rfl, List.forall₂_same.mpr fun value _ => .same value⟩

theorem cons (value : Value) (agree : AgreeBut place first second) :
    AgreeBut (place.map (· + 1)) (value :: first) (value :: second) where
  elsewhere index apart := by
    cases index with
    | zero => rfl
    | succ index =>
      apply agree.elsewhere index
      rintro rfl
      exact apart rfl
  each := .cons (.same value) agree.each

theorem getD_eq (agree : AgreeBut place first second) (index : Nat) (apart : place ≠ some index) (default : Value) :
    first.getD index default = second.getD index default := by
  rw [List.getD_eq_getElem?_getD, List.getD_eq_getElem?_getD, agree.elsewhere index apart]

theorem getD_alike (agree : AgreeBut place first second) (index : Nat) (default : Value) :
    Value.Alike (first.getD index default) (second.getD index default) := by
  have each := agree.each
  clear agree
  induction each generalizing index with
  | nil => exact .same default
  | cons head _ ih =>
    cases index with
    | zero => exact head
    | succ index => exact ih index

/-- Only the first of the values differs. -/
theorem head {value other : Value} (alike : Value.Alike value other) (rest : List Value) :
    AgreeBut (some 0) (value :: rest) (other :: rest) where
  elsewhere index apart := by
    cases index with
    | zero => exact absurd rfl apart
    | succ index => rfl
  each := .cons alike (List.forall₂_same.mpr fun value _ => .same value)

theorem tail_eq {value other : Value} {rest others : List Value}
    (agree : AgreeBut (some 0) (value :: rest) (other :: others)) : rest = others := by
  apply List.ext_getElem?
  intro index
  exact agree.elsewhere (index + 1) (by simp)

end AgreeBut

/-- The place among the parameters at which an operation takes a value or bindings; a comparison with a single
parameter takes that one. -/
def Operation.valuePlace (operation : Operation) (parameters : Nat) : Option Nat :=
  match operation with
  | .compare | .orCompare => some (if parameters = 1 then 0 else 1)
  | .raw | .orRaw | .orderByRaw => some 1
  | .member | .orMember => some 0
  | .null | .orNull | .notNull | .orNotNull | .orderBy => none

theorem Operation.valuePlace_alternative (operation : Operation) (parameters : Nat) :
    operation.alternative.valuePlace parameters = operation.valuePlace parameters := by
  cases operation <;> rfl

/-- Whether the mark of the keyword stands in no parameter but the one at which a value or bindings are taken. -/
def NamedOverride.bindsMarks (override : NamedOverride) : Bool :=
  override.template.zipIdx.all fun (value, index) =>
    !value.marked || override.operation.valuePlace override.template.length == some index

theorem NamedOverride.fill_agrees {override : NamedOverride} (binds : override.bindsMarks = true)
    (keyword keyword' : String) :
    AgreeBut (override.operation.valuePlace override.template.length) (override.template.map (Value.fill keyword))
      (override.template.map (Value.fill keyword')) where
  elsewhere index apart := by
    rw [List.getElem?_map, List.getElem?_map]
    cases found : override.template[index]? with
    | none => rfl
    | some value =>
      have member : (value, index) ∈ override.template.zipIdx := List.mem_zipIdx_iff_getElem?.mpr found
      have unmarked : value.marked = false := by
        have held := List.all_eq_true.mp binds _ member
        simpa [apart] using held
      rw [Option.map_some, Option.map_some, Value.fill_unmarked keyword unmarked, Value.fill_unmarked keyword' unmarked]
  each := by
    rw [List.forall₂_map_left_iff, List.forall₂_map_right_iff]
    exact List.forall₂_same.mpr fun value _ => value.fill_alike keyword keyword'

/-! What the methods of a group make of such values. -/

section Entries

variable {name : String} {operator value other : Value} {entry entry' : Entry}

theorem Sql.compare_alike {left : Expr} {operator : Comparison} {test test' : Atom} (alike : Value.Alike value other)
    (made : compare left operator value = .ok test) (made' : compare left operator other = .ok test') :
    Atom.Twin blanked adapter.dialect test test' := by
  cases alike with
  | same =>
    cases made.symm.trans made'
    exact .refl _
  | text first second =>
    have plain (s : String) : compare left operator (.text s) = .ok (.compare left operator (.text s)) := by
      cases operator <;> rfl
    cases (plain _).symm.trans made
    cases (plain _).symm.trans made'
    exact (Expr.Twin.refl left).compare operator _ _
  | list first second =>
    have plain (items : List Value) : compare left operator (.list items) = .ok (.compare left operator (.list items)) := by
      cases operator <;> rfl
    cases (plain _).symm.trans made
    cases (plain _).symm.trans made'
    exact (Expr.Twin.refl left).compare operator _ _

theorem Sql.Adapter.comparisonOf_alike (alike : Value.Alike value other)
    (made : adapter.comparisonOf (.value (.text name)) operator value = .ok entry)
    (made' : adapter.comparisonOf (.value (.text name)) operator other = .ok entry') :
    Entry.Twin blanked adapter.dialect entry entry' := by
  obtain ⟨comparison, read, made⟩ := Except.bind_ok made
  obtain ⟨comparison', read', made'⟩ := Except.bind_ok made'
  cases read.symm.trans read'
  obtain ⟨test, compared, same⟩ := Except.bind_ok made
  obtain ⟨test', compared', same'⟩ := Except.bind_ok made'
  cases same
  cases same'
  exact .cond (.atom (compare_alike alike compared compared'))

theorem Sql.Adapter.memberOf_blind {column : Argument} {values values' : Value} {negated : Bool}
    (made : adapter.memberOf column values negated = .ok entry)
    (made' : adapter.memberOf column values' negated = .ok entry') : Entry.Twin blanked adapter.dialect entry entry' := by
  unfold memberOf testOf at made made'
  cases found : adapter.expression? column with
  | none =>
    rw [found] at made
    cases made
  | some expression =>
    rw [found] at made made'
    obtain ⟨_, listed, same⟩ := Except.bind_ok made
    obtain ⟨_, listed', same'⟩ := Except.bind_ok made'
    cases same
    cases same'
    obtain ⟨members, _, same⟩ := Except.bind_ok listed
    obtain ⟨members', _, same'⟩ := Except.bind_ok listed'
    cases same
    cases same'
    refine .cond (.atom ⟨rfl, ?_⟩)
    cases negated <;> rfl

/-- The parts of a fragment go by the names that have a value, not by the values. -/
theorem Sql.Fragment.assemble_blank {valueOf valueOf' : String → Option Value}
    (named : ∀ name, (valueOf name).isSome = (valueOf' name).isSome) (scanned : List Scanned) :
    (assemble valueOf scanned).map FragmentPart.blank = (assemble valueOf' scanned).map FragmentPart.blank := by
  induction scanned with
  | nil => rfl
  | cons item rest ih =>
    cases item with
    | char c =>
      rw [assemble, assemble]
      generalize assemble valueOf rest = one at ih ⊢
      generalize assemble valueOf' rest = other at ih ⊢
      -- The first parts of both are characters in both, or in neither.
      match one, other with
      | [], [] => rfl
      | [], _ :: _ | _ :: _, [] => cases ih
      | first :: more, second :: others =>
        obtain ⟨head, tail⟩ := List.cons.inj ih
        cases first <;> cases second
        all_goals cases head
        all_goals simp [FragmentPart.blank, tail]
    | name content =>
      have held := named (String.ofList content)
      rw [assemble, assemble, List.map_cons, List.map_cons, ih]
      cases one : valueOf (String.ofList content) <;> cases two : valueOf' (String.ofList content)
      all_goals rw [one, two] at held
      all_goals first | rfl | cases held

private theorem lookup_zip_isSome (name : String) {places : List String} {bindings bindings' : List Value}
    (many : bindings.length = bindings'.length) :
    ((places.zip bindings).lookup name).isSome = ((places.zip bindings').lookup name).isSome := by
  induction places generalizing bindings bindings' with
  | nil => rfl
  | cons place rest ih =>
    match bindings, bindings' with
    | [], [] => rfl
    | [], _ :: _ | _ :: _, [] => cases many
    | first :: more, second :: others =>
      rw [List.zip_cons_cons, List.zip_cons_cons, List.lookup_cons, List.lookup_cons]
      by_cases found : (name == place) = true
      · simp [found]
      · simp only [found]
        exact ih (Nat.succ.inj many)

/-- Texts with as many bindings come to fragments that are the same but for the bindings. -/
theorem Sql.Fragment.ofSql_blank {sql : String} {bindings bindings' : List Value} {content content' : Fragment}
    (made : ofSql sql bindings = .ok content) (made' : ofSql sql bindings' = .ok content') :
    content.map FragmentPart.blank = content'.map FragmentPart.blank := by
  unfold ofSql at made made'
  dsimp only at made made'
  by_cases count : sql.toList.count '?' = bindings.length
  · by_cases count' : sql.toList.count '?' = bindings'.length
    · have many : bindings.length = bindings'.length := count.symm.trans count'
      rw [if_neg (not_not.mpr count)] at made
      rw [if_neg (not_not.mpr count'), ← many] at made'
      split at made
      · split at made'
        · cases made
          cases made'
          exact assemble_blank (fun name => lookup_zip_isSome name many) _
        · cases made'
      · cases made
    · rw [if_pos count'] at made'
      cases made'
  · rw [if_pos count] at made
    cases made

theorem rawOf_blind {sql : Value} (made : rawOf sql value = .ok entry)
    (made' : rawOf sql other = .ok entry') : Entry.Twin blanked adapter.dialect entry entry' := by
  obtain ⟨content, raw, same⟩ := Except.bind_ok made
  obtain ⟨content', raw', same'⟩ := Except.bind_ok made'
  cases same
  cases same'
  obtain ⟨bindings, listed, raw⟩ := Except.bind_ok raw
  obtain ⟨bindings', listed', raw'⟩ := Except.bind_ok raw'
  cases sql with
  | text s =>
    have blanks := Fragment.ofSql_blank raw raw'
    refine .cond (.atom ⟨rfl, ?_⟩)
    exact congrArg (fun content => [Piece.fragment content]) blanks
  | list _ | row _ =>
    obtain ⟨_, _, raw⟩ := Except.bind_ok raw
    dsimp only at raw
    split at raw <;> cases raw
  | _ => cases raw

end Entries

/-- The place among the arguments at which a method takes a value or bindings. -/
def GroupMethod.valuePlace : GroupMethod → Option Nat
  | .compare | .orCompare => some 2
  | .raw | .orRaw | .member => some 1
  | .null | .notNull => none

/-- Calls on a column, or with raw SQL, that differ in values only make entries that differ in values only. -/
theorem GroupMethod.entry_alike {method : GroupMethod} {first second : List Value} {made made' : Entry × Value}
    (agree : AgreeBut method.valuePlace first second)
    (named : method.valuePlace = some 2 → ∃ name rest rest', first = .text name :: rest ∧ second = .text name :: rest')
    (read : method.entry adapter (first.map .value) = .ok made)
    (read' : method.entry adapter (second.map .value) = .ok made') :
    Entry.Twin blanked adapter.dialect made.1 made'.1 ∧ made.2 = made'.2 := by
  have values (arguments : List Value) : (arguments.map Argument.value).map Argument.toValue = arguments := by
    rw [List.map_map]
    exact List.map_id arguments
  have headed (arguments : List Value) :
      (arguments.map Argument.value).headD (.value .null) = .value (arguments.getD 0 .null) := by cases arguments <;> rfl
  unfold GroupMethod.entry at read read'
  simp only [values] at read read'
  cases method
  case null | notNull =>
    rw [← agree.eq, read] at read'
    cases read'
    exact ⟨.refl _, rfl⟩
  -- All others count their arguments, make an entry and give the word along.
  all_goals
    obtain ⟨_, _, read⟩ := Except.bind_ok read
    obtain ⟨_, _, read'⟩ := Except.bind_ok read'
    obtain ⟨entry, found, same⟩ := Except.bind_ok read
    obtain ⟨entry', found', same'⟩ := Except.bind_ok read'
    cases same
    cases same'
  case compare =>
    obtain ⟨name, rest, rest', rfl, rfl⟩ := named rfl
    rw [← agree.getD_eq 1 (by decide)] at found'
    exact ⟨Sql.Adapter.comparisonOf_alike (agree.getD_alike 2 .null) found found', agree.getD_eq 3 (by decide) _⟩
  case orCompare =>
    obtain ⟨name, rest, rest', rfl, rfl⟩ := named rfl
    rw [← agree.getD_eq 1 (by decide)] at found'
    exact ⟨Sql.Adapter.comparisonOf_alike (agree.getD_alike 2 .null) found found', rfl⟩
  case raw =>
    rw [← agree.getD_eq 0 (by decide)] at found'
    exact ⟨rawOf_blind found found', agree.getD_eq 2 (by decide) _⟩
  case orRaw =>
    rw [← agree.getD_eq 0 (by decide)] at found'
    exact ⟨rawOf_blind found found', rfl⟩
  case member =>
    rw [headed, ← agree.getD_eq 0 (by decide), ← agree.getD_eq 3 (by decide), ← headed] at found'
    exact ⟨Sql.Adapter.memberOf_blind found found', agree.getD_eq 2 (by decide) _⟩

namespace NamedOverride

/-- An operation whose parameters differ in values only comes to one method, whose arguments differ in values only. -/
theorem groupCall_alike {operation : Operation} {column : String} {first second : List Value}
    {call call' : GroupMethod × List Value} (agree : AgreeBut (operation.valuePlace first.length) first second)
    (chosen : groupCall operation (if operation.takesColumn then .text column :: first else first) = .ok call)
    (chosen' : groupCall operation (if operation.takesColumn then .text column :: second else second) = .ok call') :
    call.1 = call'.1 ∧ AgreeBut call.1.valuePlace call.2 call'.2 ∧
      (call.1.valuePlace = some 2 → ∃ rest rest', call.2 = .text column :: rest ∧ call'.2 = .text column :: rest') := by
  have many := agree.each.length_eq
  cases operation
  case compare | orCompare =>
    match first, second with
    | [], [] =>
      cases chosen
      cases chosen'
      exact ⟨rfl, .refl _ _, fun _ => ⟨_, _, rfl, rfl⟩⟩
    | [value], [value'] =>
      cases chosen
      cases chosen'
      have alike := agree.getD_alike 0 .null
      exact ⟨rfl, ((AgreeBut.head alike []).cons _).cons _, fun _ => ⟨_, _, rfl, rfl⟩⟩
    | value :: next :: rest, value' :: next' :: rest' =>
      cases chosen
      cases chosen'
      have second : AgreeBut (some 1) (value :: next :: rest) (value' :: next' :: rest') := by
        simpa [Operation.valuePlace] using agree
      exact ⟨rfl, second.cons _, fun _ => ⟨_, _, rfl, rfl⟩⟩
    | [], _ :: _ | _ :: _, [] | [_], _ :: _ :: _ | _ :: _ :: _, [_] => cases many
  case raw | orRaw =>
    cases chosen
    cases chosen'
    exact ⟨rfl, agree, by intro impossible; cases impossible⟩
  case member =>
    cases chosen
    cases chosen'
    exact ⟨rfl, agree.cons _, by intro impossible; cases impossible⟩
  case orMember =>
    match first, second with
    | [], _ => cases chosen
    | _ :: _, [] => cases many
    | values :: rest, values' :: rest' =>
      cases chosen
      cases chosen'
      cases agree.tail_eq
      have alike := agree.getD_alike 0 .null
      exact ⟨rfl, (AgreeBut.head alike _).cons _, by intro impossible; cases impossible⟩
  case null | notNull | orNull | orNotNull =>
    cases agree.eq
    cases chosen
    cases chosen'
    exact ⟨rfl, .refl _ _, by intro impossible; cases impossible⟩
  case orderBy => cases chosen
  case orderByRaw =>
    match first with
    | [] | _ :: _ => cases chosen

/-- An override that takes the keyword as a value only does alike to twin stores, whatever the keywords are. -/
theorem alike_of_bindsMarks {override : NamedOverride} (binds : override.bindsMarks = true) (adapter : Adapter)
    (column : String) : NamedOverride.Alike blanked adapter column override := by
  intro id useOr keyword keyword' store store' grown grown' stores applied applied'
  obtain ⟨_, _, applied⟩ := Except.bind_ok applied
  obtain ⟨_, _, applied'⟩ := Except.bind_ok applied'
  obtain ⟨call, chosen, called⟩ := Except.bind_ok applied
  obtain ⟨call', chosen', called'⟩ := Except.bind_ok applied'
  have place : (override.running useOr).valuePlace override.template.length =
      override.operation.valuePlace override.template.length := by
    cases useOr with
    | false => rfl
    | true => exact override.operation.valuePlace_alternative _
  have filled : AgreeBut ((override.running useOr).valuePlace (override.template.map (Value.fill keyword)).length)
      (override.template.map (Value.fill keyword)) (override.template.map (Value.fill keyword')) := by
    rw [List.length_map, place]
    exact fill_agrees binds keyword keyword'
  obtain ⟨same, agree, named⟩ := groupCall_alike filled chosen chosen'
  dsimp only at called called'
  rw [← same] at called'
  refine stores.call ?_ called called'
  intro made made' read read'
  refine GroupMethod.entry_alike agree ?_ read read'
  intro compared
  obtain ⟨rest, rest', one, other⟩ := named compared
  exact ⟨column, rest, rest', one, other⟩

end NamedOverride

end DataGrid
