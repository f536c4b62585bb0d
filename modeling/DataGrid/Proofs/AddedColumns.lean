import Mathlib.Data.List.Perm.Lattice
import DataGrid.Refresh.AddedColumn
import DataGrid.Proofs.ActionSteps
import DataGrid.Proofs.RecordFields

/-! The columns that are added to a row. Each puts one value under its name and leaves all other fields in their order,
so after any number of them the row holds its own names and the added ones, each once, and the last column of a name
says what stands there. Where a column stands is what the last one asks for. -/

namespace DataGrid

namespace Value

/-- A record with a value put under a name: it stands there once, and the other fields are as they were. -/
structure Puts (name : String) (content : Value) (before after : List (String × Value)) : Prop where
  own : after.filter (·.1 == name) = [(name, content)]
  others : after.filter (·.1 != name) = before.filter (·.1 != name)

namespace Puts

variable {name key : String} {content : Value} {before after : List (String × Value)}

theorem perm (puts : Puts name content before after) :
    after.Perm ((name, content) :: before.filter (·.1 != name)) := by
  have parts := List.filter_append_perm (·.1 == name) after
  rw [puts.own] at parts
  exact puts.others ▸ parts.symm

theorem mem_names (puts : Puts name content before after) :
    key ∈ after.map (·.1) ↔ key = name ∨ key ∈ before.map (·.1) := by
  rw [(puts.perm.map _).mem_iff, List.map_cons, List.mem_cons]
  by_cases same : key = name
  · simp [same]
  · simp [same]

theorem distinct (puts : Puts name content before after) (distinct : (before.map (·.1)).Nodup) :
    (after.map (·.1)).Nodup := by
  rw [(puts.perm.map _).nodup_iff, List.map_cons, List.nodup_cons]
  refine ⟨by simp, distinct.sublist ?_⟩
  exact List.filter_sublist.map _

theorem kept (puts : Puts name content before after) {keep : String × Value → Bool}
    (apart : ∀ value, keep (name, value) = false) : after.filter keep = before.filter keep := by
  have only (fields : List (String × Value)) : fields.filter keep = (fields.filter (·.1 != name)).filter keep := by
    rw [List.filter_filter]
    refine List.filter_congr fun field _ => ?_
    obtain ⟨other, value⟩ := field
    by_cases same : other = name
    · simp [same, apart]
    · simp [same]
  rw [only after, puts.others, ← only before]

theorem field?_same (puts : Puts name content before after) : field? after name = some content := by
  have within (value : Value) : (((name, value) : String × Value).1 == name) = true := beq_self_eq_true name
  rw [← field?_filter (·.1 == name) within, puts.own, field?_cons, beq_self_eq_true, if_pos rfl]

theorem field?_other (puts : Puts name content before after) (different : key ≠ name) :
    field? after key = field? before key := by
  have apart (value : Value) : (((key, value) : String × Value).1 != name) = true := by simpa using different
  rw [← field?_filter (·.1 != name) apart, puts.others, field?_filter (·.1 != name) apart]

end Puts

private theorem filter_replaced (fields : List (String × Value)) (name : String) (content : Value) :
    (fields.map fun (other, old) => if other == name then (other, content) else (other, old)).filter (·.1 != name) =
      fields.filter (·.1 != name) := by
  induction fields with
  | nil => rfl
  | cons field rest ih =>
    obtain ⟨other, old⟩ := field
    rw [List.map_cons]
    by_cases same : other = name
    · simpa [same] using ih
    · simpa [same] using ih

private theorem filter_replacing {fields : List (String × Value)} {name : String} (content : Value)
    (distinct : (fields.map (·.1)).Nodup) (known : name ∈ fields.map (·.1)) :
    (fields.map fun (other, old) => if other == name then (other, content) else (other, old)).filter (·.1 == name) =
      [(name, content)] := by
  induction fields with
  | nil => cases known
  | cons field rest ih =>
    obtain ⟨other, old⟩ := field
    obtain ⟨fresh, distinct⟩ := List.nodup_cons.mp distinct
    by_cases same : other = name
    · subst same
      have none : (rest.map fun (name, old) => if name == other then (name, content) else (name, old)).filter
          (·.1 == other) = [] := by
        rw [List.filter_eq_nil_iff]
        intro field member
        obtain ⟨⟨name, old⟩, among, rfl⟩ := List.mem_map.mp member
        have apart : name ≠ other := fun same => fresh (List.mem_map.mpr ⟨_, among, same⟩)
        simp [apart]
      rw [List.map_cons]
      dsimp only
      rw [if_pos (beq_self_eq_true other), List.filter_cons, if_pos (beq_self_eq_true other), none]
    · have later : name ∈ rest.map (·.1) := by simpa [Ne.symm same] using known
      simpa [same] using ih distinct later

theorem setField_puts {fields : List (String × Value)} (distinct : (fields.map (·.1)).Nodup) (name : String)
    (content : Value) : Puts name content fields (setField fields name content) := by
  unfold setField
  by_cases known : name ∈ fields.map (·.1)
  · rw [if_pos (any_name_iff.mpr known)]
    exact ⟨filter_replacing content distinct known, filter_replaced fields name content⟩
  · rw [if_neg (mt any_name_iff.mp known)]
    have none : fields.filter (·.1 == name) = [] := by
      rw [List.filter_eq_nil_iff]
      intro field member found
      exact known (beq_iff_eq.mp found ▸ List.mem_map_of_mem member)
    exact ⟨by simp [none], by simp⟩

/-- A field that is taken out and put back among the others. -/
theorem insert_puts (fields : List (String × Value)) (name : String) (content : Value) (place : Nat) :
    Puts name content fields ((fields.filter (·.1 != name)).take place ++
      (name, content) :: (fields.filter (·.1 != name)).drop place) := by
  have apart (field : String × Value) (member : field ∈ fields.filter (·.1 != name)) : (field.1 != name) = true :=
    (List.mem_filter.mp member).2
  have front : ((fields.filter (·.1 != name)).take place).filter (·.1 == name) = [] := by
    rw [List.filter_eq_nil_iff]
    intro field member
    simpa using apart field (List.mem_of_mem_take member)
  have back : ((fields.filter (·.1 != name)).drop place).filter (·.1 == name) = [] := by
    rw [List.filter_eq_nil_iff]
    intro field member
    simpa using apart field (List.mem_of_mem_drop member)
  constructor
  · simp [front, back]
  · rw [List.filter_append, List.filter_cons_of_neg (by simp),
      List.filter_eq_self.mpr fun field member => apart field (List.mem_of_mem_take member),
      List.filter_eq_self.mpr fun field member => apart field (List.mem_of_mem_drop member), List.take_append_drop]

end Value

namespace AddedColumn

variable {column : AddedColumn} {columns : List AddedColumn} {before row result : Row}

/-- Where a column stands once it is added: at its position or at the end if that is nearer, and without a position in
the place of its name or else at the end. -/
structure Stands (column : AddedColumn) (content : Value) (before after : Row) : Prop where
  positioned : ∀ position, column.position.index? = some position → 0 ≤ position →
    after[min position.toNat (after.length - 1)]? = some (column.name, content)
  replaced : column.position = .null → column.name ∈ before.map (·.1) → after.map (·.1) = before.map (·.1)
  appended : column.position = .null → column.name ∉ before.map (·.1) → after = before ++ [(column.name, content)]

theorem positionOf_ok {position number : Int} {value : Value} (whole : value.index? = some number)
    (read : positionOf value = .ok position) : position = number := by
  cases value with
  | int n =>
    cases whole
    simp only [positionOf] at read
    split at read
    · cases read
      rfl
    · cases read
  | bool flag =>
    cases whole
    cases read
    rfl
  | _ => cases whole

theorem addTo_ok (distinct : (before.map (·.1)).Nodup) (added : column.addTo before = .ok result) :
    ∃ content, column.content.valueFor before = .ok content ∧ Value.Puts column.name content before result ∧
      column.Stands content before result := by
  obtain ⟨content, computed, added⟩ := Except.bind_ok added
  refine ⟨content, computed, ?_⟩
  dsimp only at added
  split at added
  · next free =>
    cases added
    refine ⟨Value.setField_puts distinct column.name content, ?_, ?_, ?_⟩
    · intro position whole
      rw [free] at whole
      cases whole
    · intro _ known
      rw [Value.names_setField, if_pos known]
    · intro _ fresh
      rw [Value.setField, if_neg (mt Value.any_name_iff.mp fresh)]
  · next given =>
    obtain ⟨place, read, same⟩ := Except.bind_ok added
    cases same
    refine ⟨Value.insert_puts .., ?_, fun free => absurd free given, fun free => absurd free given⟩
    intro position whole counted
    obtain rfl := positionOf_ok whole read
    generalize before.filter (·.1 != column.name) = others
    have within : itemsBefore others.length place = min place.toNat others.length := if_neg (Int.not_lt.mpr counted)
    have size : (others.take (min place.toNat others.length) ++
        (column.name, content) :: others.drop (min place.toNat others.length)).length - 1 = others.length := by
      rw [List.length_append, List.length_take, List.length_cons, List.length_drop]
      omega
    rw [within, size, List.getElem?_append_right (by simp), List.length_take, Nat.min_assoc, Nat.min_self, Nat.sub_self]
    rfl

theorem addAll_cons (column : AddedColumn) (columns : List AddedColumn) (row : Row) :
    addAll (column :: columns) row = column.addTo row >>= addAll columns := by
  rw [addAll, List.foldlM_cons]
  rfl

theorem addAll_append (first second : List AddedColumn) (row : Row) :
    addAll (first ++ second) row = addAll first row >>= addAll second := by
  rw [addAll, List.foldlM_append]
  rfl

/-- What any number of added columns keep. -/
structure Keeps (columns : List AddedColumn) (row result : Row) : Prop where
  distinct : (result.map (·.1)).Nodup
  names : ∀ key, key ∈ result.map (·.1) ↔ key ∈ row.map (·.1) ∨ key ∈ columns.map (·.name)
  others : result.filter (fun field => !(columns.map (·.name)).contains field.1) =
    row.filter (fun field => !(columns.map (·.name)).contains field.1)
  fields : ∀ key, key ∉ columns.map (·.name) → Value.field? result key = Value.field? row key

theorem addAll_keeps (distinct : (row.map (·.1)).Nodup) (added : addAll columns row = .ok result) :
    Keeps columns row result := by
  induction columns generalizing row with
  | nil =>
    cases added
    exact ⟨distinct, by simp, rfl, fun _ _ => rfl⟩
  | cons column rest ih =>
    rw [addAll_cons] at added
    obtain ⟨middle, first, added⟩ := Except.bind_ok added
    obtain ⟨content, _, puts, _⟩ := addTo_ok distinct first
    obtain ⟨distinct', names, others, fields⟩ := ih (puts.distinct distinct) added
    refine ⟨distinct', fun key => ?_, ?_, fun key free => ?_⟩
    · rw [names, puts.mem_names, List.map_cons, List.mem_cons]
      tauto
    · have cut (fields : Row) : fields.filter (fun field => !((column :: rest).map (·.name)).contains field.1) =
          (fields.filter fun field => !(rest.map (·.name)).contains field.1).filter (·.1 != column.name) := by
        rw [List.filter_filter]
        refine List.filter_congr fun field _ => ?_
        rw [List.map_cons, List.contains_cons, Bool.not_or]
        rfl
      rw [cut, others, ← cut]
      exact puts.kept fun value => by simp
    · rw [List.map_cons, List.mem_cons, not_or] at free
      rw [fields key free.2, puts.field?_other free.1]

theorem recordOf_distinct (cells : Row) : ((Database.recordOf cells).map (·.1)).Nodup := by
  have each (cells fields : Row) (distinct : (fields.map (·.1)).Nodup) :
      ((cells.foldl (fun fields (name, value) => Value.setField fields name value) fields).map (·.1)).Nodup := by
    induction cells generalizing fields with
    | nil => exact distinct
    | cons cell rest ih => exact ih _ ((Value.setField_puts distinct cell.1 cell.2).distinct distinct)
  exact each cells [] List.nodup_nil

/-- A label that is added, overtaken by a new `id`, and added again at a position beyond the end. -/
private def labels : List AddedColumn :=
  [⟨"label", .template "\x7bname\x7d", .int 0⟩, ⟨"id", .joined ["label", "id"] "-", .null⟩,
    ⟨"label", .template "\x7bid\x7d", .int 9⟩]

private def person : Row := Database.recordOf [("id", .int 7), ("name", .text "Ann")]

end AddedColumn

end DataGrid
