import DataGrid.Filter.Tree
import DataGrid.Proofs.ActionSteps

/-! The logics of a filter value: those of the groups that are reached from it through lists of filters, a group before
what it holds. A tree is read exactly when each of them is one of the two junctions, and what is refused is the first
that is none. -/

namespace DataGrid

open Sql

namespace Value

def isGroup : Value → Bool
  | .object fields => FilterNode.describesGroup fields
  | _ => false

/-- A value as the word of a junction, its case and the blanks around it left out. -/
def logicWord (value : Value) : String := String.ofList (Text.lower (Text.trim value.display.toList))

def isLogic (value : Value) : Bool := value.logicWord == "and" || value.logicWord == "or"

theorem toLogic_ok {value : Value} (named : value.isLogic = true) : ∃ junction, value.toLogic = .ok junction := by
  rcases Bool.or_eq_true_iff.mp named with word | word
  · exact ⟨.and, by rw [toLogic, ← logicWord, beq_iff_eq.mp word]; rfl⟩
  · exact ⟨.or, by rw [toLogic, ← logicWord, beq_iff_eq.mp word]; rfl⟩

theorem toLogic_error {value : Value} (unnamed : value.isLogic = false) :
    value.toLogic = .error (.unknownJunction value.display) := by
  obtain ⟨other, another⟩ := Bool.or_eq_false_iff.mp unnamed
  rw [toLogic, ← logicWord, Junction.ofText?, if_neg (beq_eq_false_iff_ne.mp other),
    if_neg (beq_eq_false_iff_ne.mp another)]

mutual

/-- The logics of the groups in a value, a group before what it holds. -/
def logics : Value → List Value
  | .object fields =>
    if FilterNode.describesGroup fields then fieldOrNull fields "logic" :: filterLogics fields else []
  | _ => []

/-- The logics in the field that holds the filters. -/
def filterLogics : List (String × Value) → List Value
  | [] => []
  | (name, value) :: rest =>
    if name = "filters" then
      match value with
      | .list items => allLogics items
      | _ => []
    else filterLogics rest

def allLogics : List Value → List Value
  | [] => []
  | value :: rest => value.logics ++ allLogics rest

end

/-- The values that are reached from a root through the lists of filters of its groups. -/
inductive Reaches (root : Value) : Value → Prop where
  | root : Reaches root root
  | filter {fields items inner} (outer : Reaches root (.object fields))
      (group : FilterNode.describesGroup fields = true) (filters : field? fields "filters" = some (.list items))
      (member : inner ∈ items) : Reaches root inner

theorem Reaches.trans {root middle inner : Value} (one : Reaches root middle) (other : Reaches middle inner) :
    Reaches root inner := by
  induction other with
  | root => exact one
  | filter _ group filters member outer => exact .filter outer group filters member

theorem allLogics_eq (items : List Value) : allLogics items = items.flatMap logics := by
  induction items with
  | nil => rfl
  | cons item rest ih => rw [allLogics, ih, List.flatMap_cons]

/-- The filters of a record are those of the field that holds them, where it is a list. -/
theorem filterLogics_eq (fields : List (String × Value)) : filterLogics fields =
    match field? fields "filters" with
    | some (.list items) => allLogics items
    | _ => [] := by
  induction fields with
  | nil => rfl
  | cons field rest ih =>
    obtain ⟨name, value⟩ := field
    rw [filterLogics.eq_def]
    by_cases same : name = "filters"
    · have first : field? ((name, value) :: rest) "filters" = some value := by simp [field?, same]
      rw [first]
      simp only [same, if_true]
      cases value <;> rfl
    · have later : field? ((name, value) :: rest) "filters" = field? rest "filters" := by simp [field?, same]
      rw [later, ← ih]
      simp only [same, if_false]

theorem logics_group {fields : List (String × Value)} {items : List Value}
    (group : FilterNode.describesGroup fields = true) (filters : field? fields "filters" = some (.list items)) :
    logics (.object fields) = fieldOrNull fields "logic" :: items.flatMap logics := by
  rw [logics, if_pos group, filterLogics_eq, filters, ← allLogics_eq]

theorem Reaches.logics_subset {root inner : Value} (reached : Reaches root inner) : inner.logics ⊆ root.logics := by
  induction reached with
  | root => exact List.Subset.refl _
  | filter _ group filters member outer =>
    rw [logics_group group filters] at outer
    exact fun token within => outer (.tail _ (List.mem_flatMap.mpr ⟨_, member, within⟩))

theorem describesGroup_logic {fields : List (String × Value)} (group : FilterNode.describesGroup fields = true) :
    field? fields "logic" = some (fieldOrNull fields "logic") := by
  obtain ⟨word, named⟩ := Option.isSome_iff_exists.mp (Bool.and_eq_true_iff.mp group).1
  rw [fieldOrNull, named, Option.getD_some]

/-- Whether a group that is reached from a value has a logic. -/
def HasLogic (root token : Value) : Prop :=
  ∃ fields, Reaches root (.object fields) ∧ FilterNode.describesGroup fields = true ∧
    field? fields "logic" = some token

mutual

theorem hasLogic_of_logics {root token : Value} (among : token ∈ root.logics) : root.HasLogic token := by
  match root with
  | .object fields =>
    rw [logics] at among
    split at among
    · next group =>
      rcases List.mem_cons.mp among with rfl | within
      · exact ⟨fields, .root, group, describesGroup_logic group⟩
      · obtain ⟨items, filters, inner, member, deeper, reached, found⟩ := hasLogic_of_filterLogics within
        exact ⟨deeper, (Reaches.filter .root group filters member).trans reached, found⟩
    · cases among
  | .null | .bool _ | .int _ | .float _ | .text _ | .bytes _ | .decimal _ | .moment _ | .uuid _ | .foreign
  | .list _ | .row _ => cases among

theorem hasLogic_of_filterLogics {fields : List (String × Value)} {token : Value} (among : token ∈ filterLogics fields) :
    ∃ items, field? fields "filters" = some (.list items) ∧ ∃ inner ∈ items, inner.HasLogic token := by
  match fields with
  | [] => cases among
  | (name, value) :: rest =>
    rw [filterLogics.eq_def] at among
    dsimp only at among
    by_cases same : name = "filters"
    · rw [if_pos same] at among
      cases value with
      | list items => exact ⟨items, by simp [field?, same], hasLogic_of_allLogics among⟩
      | _ => cases among
    · rw [if_neg same] at among
      have later : field? ((name, value) :: rest) "filters" = field? rest "filters" := by simp [field?, same]
      rw [later]
      exact hasLogic_of_filterLogics among

theorem hasLogic_of_allLogics {items : List Value} {token : Value} (among : token ∈ allLogics items) :
    ∃ inner ∈ items, inner.HasLogic token := by
  match items with
  | [] => cases among
  | item :: rest =>
    rw [allLogics] at among
    rcases List.mem_append.mp among with first | later
    · exact ⟨item, .head _, hasLogic_of_logics first⟩
    · obtain ⟨inner, member, found⟩ := hasLogic_of_allLogics later
      exact ⟨inner, .tail _ member, found⟩

end

/-- The logics of a value are those of the groups that are reached from it. -/
theorem mem_logics {root token : Value} : token ∈ root.logics ↔ root.HasLogic token := by
  constructor
  · exact hasLogic_of_logics
  · rintro ⟨fields, reached, group, logic⟩
    apply reached.logics_subset
    rw [logics, if_pos group, fieldOrNull, logic]
    exact .head _

end Value

/-- Whether a step of reading values with the given logics comes through when they are junctions all, and refuses
otherwise the first that is none. -/
inductive Judged {α : Type} (logics : List Value) : Except Error α → Prop where
  | read {result} (known : ∀ token ∈ logics, token.isLogic = true) : Judged logics (.ok result)
  | refused {token} (unknown : logics.find? (fun token => !token.isLogic) = some token) :
      Judged logics (.error (.unknownJunction token.display))

namespace Judged

variable {α β : Type} {logics more : List Value}

theorem bind {first : Except Error α} {next : α → Except Error β} (one : Judged logics first)
    (steps : ∀ value, Judged more (next value)) : Judged (logics ++ more) (first >>= next) := by
  cases one with
  | refused unknown => exact .refused (by rw [List.find?_append, unknown]; rfl)
  | @read value known =>
    have none : logics.find? (fun token => !token.isLogic) = none := by simpa using known
    have other := steps value
    rw [Except.ok_bind]
    generalize next value = result at other
    cases other with
    | refused unknown => exact .refused (by rw [List.find?_append, none]; exact unknown)
    | read others => exact .read (List.forall_mem_append.mpr ⟨known, others⟩)

theorem pure (value : α) : Judged [] (.ok value) := .read nofun

theorem map {first : Except Error α} (f : α → β) (one : Judged logics first) :
    Judged logics (first >>= fun value => Pure.pure (f value)) := by
  rw [← List.append_nil logics]
  exact one.bind fun value => pure (f value)

theorem toLogic (token : Value) : Judged [token] token.toLogic := by
  cases named : token.isLogic with
  | true =>
    obtain ⟨junction, same⟩ := Value.toLogic_ok named
    exact same ▸ .read (by simp [named])
  | false => exact Value.toLogic_error named ▸ .refused (by simp [named])

end Judged

namespace FilterNode

mutual

/-- A value is read as a node when all its logics are junctions, and refused for the first that is none. -/
theorem ofValue_judged (value : Value) : Judged value.logics (ofValue value) := by
  match value with
  | .object fields =>
    rw [ofValue, Value.logics]
    split
    · exact (Judged.toLogic _).bind fun logic => (childrenOf_judged fields).map _
    · exact .pure _
  | .null | .bool _ | .int _ | .float _ | .text _ | .bytes _ | .decimal _ | .moment _ | .uuid _ | .foreign
  | .list _ | .row _ => exact .pure _

theorem childrenOf_judged (fields : List (String × Value)) : Judged (Value.filterLogics fields) (childrenOf fields) := by
  match fields with
  | [] => exact .pure _
  | (name, value) :: rest =>
    rw [childrenOf.eq_def, Value.filterLogics.eq_def]
    dsimp only
    split
    · cases value with
      | list items => exact ofValues_judged items
      | _ => exact .pure _
    · exact childrenOf_judged rest

theorem ofValues_judged (items : List Value) : Judged (Value.allLogics items) (ofValues items) := by
  match items with
  | [] => exact .pure _
  | value :: rest =>
    rw [ofValues, Value.allLogics]
    exact (ofValue_judged value).bind fun node => (ofValues_judged rest).map _

end

end FilterNode

end DataGrid
