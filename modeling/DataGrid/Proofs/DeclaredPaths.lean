import DataGrid.Proofs.ColumnTables
import DataGrid.Proofs.SearchSteps
import DataGrid.Refresh
import Mathlib.Data.List.Induction
import Mathlib.Data.Set.Lattice
import Mathlib.Order.Bounds.Basic

/-! The paths that are declared, with those that lead to them. Which paths there are depends on what was declared at all,
in however many calls, and a column is split behind a path exactly when that path leads to a declared one. -/

namespace DataGrid

namespace Text

theorem splitString_plain {separator : Char} {text name : String} (member : name ∈ splitString separator text) :
    separator ∉ name.toList := by
  obtain ⟨segment, among, rfl⟩ := List.mem_map.mp member
  simpa using not_mem_segments separator text.toList segment among

theorem splitString_intercalate {names : List String} (some : names ≠ []) (plain : ∀ name ∈ names, '.' ∉ name.toList) :
    splitString '.' (".".intercalate names) = names := by
  have separated : segments '.' (['.'].intercalate (names.map String.toList)) = names.map String.toList := by
    refine segments_intercalate (by simpa using some) fun part member => ?_
    obtain ⟨name, among, rfl⟩ := List.mem_map.mp member
    exact plain name among
  have chars : (".".intercalate names).toList = ['.'].intercalate (names.map String.toList) :=
    String.toList_intercalate
  rw [splitString, chars, separated, List.map_map]
  simp [Function.comp_def]

theorem splitString_append (first second : String) :
    splitString '.' (first ++ "." ++ second) = splitString '.' first ++ splitString '.' second := by
  have chars : (first ++ "." ++ second).toList = first.toList ++ '.' :: second.toList := by simp
  rw [splitString, chars, segments_append, List.map_append, splitString, splitString]

theorem intercalate_concat {names : List String} (some : names ≠ []) (name : String) :
    ".".intercalate (names ++ [name]) = ".".intercalate names ++ "." ++ name := by
  apply String.toList_injective
  rw [String.toList_intercalate, List.map_append, intercalate_append _ (by simpa using some) (by simp)]
  simp [String.toList_intercalate]

theorem splitLast_whole {separated path name : String} (split : splitLast? '.' separated = some (path, name)) :
    '.' ∉ name.toList ∧ separated = path ++ "." ++ name := by
  unfold splitLast? at split
  match listed : (splitString '.' separated).reverse, split with
  | last :: before :: more, same =>
    cases same
    have names : splitString '.' separated = (before :: more).reverse ++ [name] := by
      rw [← List.reverse_reverse (splitString '.' separated), listed, List.reverse_cons]
    have last : name ∈ splitString '.' separated := names ▸ List.mem_append_right _ (.head _)
    refine ⟨splitString_plain last, ?_⟩
    rw [← intercalate_splitString separated, names, intercalate_concat (by simp) name]

end Text

namespace PathSet

open Text

/-- Whether a path is another one without its last name. -/
def IsParent (parent path : String) : Prop := ∃ name, '.' ∉ name.toList ∧ path = parent ++ "." ++ name

/-- Whether a path is another one, or the names that it starts with. -/
def Leads (start path : String) : Prop := start = path ∨ ∃ rest, path = start ++ "." ++ rest

/-- All paths that lead to one of these. -/
def leading (paths : Set String) : Set String := {start | ∃ path ∈ paths, Leads start path}

/-- Whether each path has its parent beside it. -/
def Rooted (paths : Set String) : Prop := ∀ path ∈ paths, ∀ parent, IsParent parent path → parent ∈ paths

def toSet (paths : List String) : Set String := {path | path ∈ paths}

variable {start path parent : String} {paths : PathSet} {declared : List String}

theorem leads_iff : Leads start path ↔ splitString '.' start <+: splitString '.' path := by
  constructor
  · rintro (rfl | ⟨rest, rfl⟩)
    · exact List.prefix_rfl
    · rw [splitString_append]
      exact List.prefix_append _ _
  · rintro ⟨more, names⟩
    have whole := intercalate_splitString path
    rw [← names] at whole
    by_cases none : more = []
    · subst none
      rw [List.append_nil, intercalate_splitString] at whole
      exact .inl whole
    · have plain : ∀ name ∈ more, '.' ∉ name.toList := fun name member =>
        have among : name ∈ splitString '.' path := names ▸ List.mem_append_right _ member
        splitString_plain among
      refine .inr ⟨".".intercalate more, ?_⟩
      rw [← intercalate_splitString (start ++ _ ++ _), splitString_append, splitString_intercalate none plain, whole]

theorem Leads.trans {middle : String} (first : Leads start middle) (second : Leads middle path) : Leads start path :=
  leads_iff.mpr ((leads_iff.mp first).trans (leads_iff.mp second))

theorem IsParent.leads (parents : IsParent parent path) : Leads parent path := by
  obtain ⟨name, -, rfl⟩ := parents
  exact .inr ⟨name, rfl⟩

/-- Going from parent to parent reaches every path that leads to the one where it starts. -/
theorem Rooted.leads {paths : Set String} (rooted : Rooted paths) (member : path ∈ paths) (leads : Leads start path) :
    start ∈ paths := by
  obtain ⟨more, names⟩ := leads_iff.mp leads
  induction more using List.reverseRecOn generalizing path with
  | nil =>
    have same : start = path := by
      rw [← intercalate_splitString start, ← intercalate_splitString path, ← names, List.append_nil]
    exact same ▸ member
  | append_singleton more name ih =>
    rw [← List.append_assoc] at names
    have some : splitString '.' start ++ more ≠ [] := List.append_ne_nil_of_left_ne_nil (splitString_ne_nil _ _) _
    have plain : ∀ other ∈ splitString '.' start ++ more ++ [name], '.' ∉ other.toList := by
      rw [names]
      exact fun other among => splitString_plain among
    have split := splitString_intercalate some fun other among => plain other (List.mem_append_left _ among)
    have parents : IsParent (".".intercalate (splitString '.' start ++ more)) path := by
      refine ⟨name, plain name (List.mem_append_right _ (.head _)), ?_⟩
      rw [← intercalate_splitString path, ← names, intercalate_concat some name]
    refine ih (rooted path member _ parents) (leads_iff.mpr ?_) split.symm
    rw [split]
    exact List.prefix_append _ _

theorem mem_withParents : start ∈ withParents path ↔ Leads start path := by
  rw [leads_iff]
  constructor
  · intro member
    obtain ⟨n, -, rfl⟩ := List.mem_map.mp member
    have some : (splitString '.' path).take (n + 1) ≠ [] := by simp [splitString_ne_nil]
    rw [splitString_intercalate some fun name among => splitString_plain (List.mem_of_mem_take among)]
    exact List.take_prefix _ _
  · intro leads
    have positive : 0 < (splitString '.' start).length := List.length_pos_iff.mpr (splitString_ne_nil _ _)
    have short := leads.length_le
    refine List.mem_map.mpr ⟨(splitString '.' start).length - 1, List.mem_range.mpr (by omega), ?_⟩
    rw [Nat.sub_add_cancel positive, ← List.prefix_iff_eq_take.mp leads, intercalate_splitString]

theorem mem_insert {added : String} : path ∈ insert paths added ↔ path ∈ paths ∨ path = added := by
  unfold insert
  split
  · next known =>
    have member : added ∈ paths := List.contains_iff_mem.mp known
    exact ⟨.inl, fun either => either.elim id fun same => same ▸ member⟩
  · simp

theorem mem_foldl_insert (added : List String) : path ∈ added.foldl insert paths ↔ path ∈ paths ∨ path ∈ added := by
  induction added generalizing paths with
  | nil => simp
  | cons one rest ih => rw [List.foldl_cons, ih, mem_insert, List.mem_cons, or_assoc]

/-- Expanding gives the paths that lead to a declared one. -/
theorem toSet_expand (declared : List String) : toSet (expand declared) = leading (toSet declared) := by
  ext start
  change start ∈ expand declared ↔ _
  rw [expand, mem_foldl_insert, List.mem_flatMap]
  simp only [List.not_mem_nil, false_or, mem_withParents]
  rfl

theorem leading_union (first second : Set String) : leading (first ∪ second) = leading first ∪ leading second := by
  ext start
  constructor
  · rintro ⟨path, member | member, leads⟩
    · exact .inl ⟨path, member, leads⟩
    · exact .inr ⟨path, member, leads⟩
  · rintro (⟨path, member, leads⟩ | ⟨path, member, leads⟩)
    · exact ⟨path, .inl member, leads⟩
    · exact ⟨path, .inr member, leads⟩

theorem leading_leading (paths : Set String) : leading (leading paths) = leading paths := by
  ext start
  constructor
  · rintro ⟨middle, ⟨path, member, second⟩, first⟩
    exact ⟨path, member, first.trans second⟩
  · exact fun member => ⟨start, member, .inl rfl⟩

theorem leading_isLeast (paths : Set String) : IsLeast {larger | paths ⊆ larger ∧ Rooted larger} (leading paths) := by
  refine ⟨⟨fun path member => ⟨path, member, .inl rfl⟩, ?_⟩, ?_⟩
  · rintro path ⟨target, member, leads⟩ parent parents
    exact ⟨target, member, parents.leads.trans leads⟩
  · rintro larger ⟨holds, rooted⟩ start ⟨path, member, leads⟩
    exact rooted.leads (holds member) leads

theorem toSet_append (first second : List String) : toSet (first ++ second) = toSet first ∪ toSet second := by
  ext path
  exact List.mem_append

theorem toSet_extend (paths : PathSet) (declared : List String) :
    toSet (paths.extend declared) = toSet paths ∪ leading (toSet declared) := by
  rw [← toSet_expand]
  ext path
  exact mem_foldl_insert _

/-- A column is split where its last name begins, if what stands before it is among the paths. -/
theorem split?_eq_some_iff {column name : String} :
    paths.split? column = some (path, name) ↔ '.' ∉ name.toList ∧ column = path ++ "." ++ name ∧ path ∈ paths := by
  constructor
  · intro split
    obtain ⟨plain, whole⟩ := splitLast_whole (Option.filter_eq_some_iff.mp split).1
    exact ⟨plain, whole, split?_mem split⟩
  · rintro ⟨plain, rfl, member⟩
    rw [split?, splitLast_within path name plain, Option.filter_some, if_pos (List.contains_iff_mem.mpr member)]

theorem split?_congr {others : PathSet} (same : toSet paths = toSet others) : paths.split? = others.split? := by
  funext column
  refine Option.ext fun pair => ?_
  obtain ⟨path, name⟩ := pair
  have member : path ∈ paths ↔ path ∈ others := Set.ext_iff.mp same path
  rw [split?_eq_some_iff, split?_eq_some_iff, member]

end PathSet

namespace Refresh

open PathSet

theorem toSet_declare (refresh : Refresh) (call : List String) :
    toSet (refresh.declare call).paths = toSet refresh.paths ∪ leading (toSet call) := toSet_extend _ _

/-- However often paths are declared, those that lead to a path of some call are added. -/
theorem toSet_declareAll (refresh : Refresh) (calls : List (List String)) :
    toSet (calls.foldl declare refresh).paths = toSet refresh.paths ∪ leading {path | ∃ call ∈ calls, path ∈ call} := by
  induction calls generalizing refresh with
  | nil => simp [leading]
  | cons call rest ih =>
    have given : {path | ∃ one ∈ call :: rest, path ∈ one} = toSet call ∪ {path | ∃ one ∈ rest, path ∈ one} := by
      ext path
      simp [toSet]
    rw [List.foldl_cons, ih, toSet_declare, given, leading_union, Set.union_assoc]

/-- Expanding gives the least set that holds the declared paths and with each path its parent; so it changes nothing
when it is done again, and goes by the paths one for one. Of a grid only the paths matter that were declared to it at
all, and its columns are split behind those that lead to one of them, whether they are expanded once more or not. -/
theorem declared_leads (declared more : List String) (calls : List (List String)) (request : Request) (config : Config)
    (query : Query) (registry : Registry) (database : Option Database) (debugging : Bool) :
    let refresh := calls.foldl declare (ofQuery request config query registry declared database debugging)
    let given := toSet declared ∪ {path | ∃ call ∈ calls, path ∈ call}
    IsLeast {paths | toSet declared ⊆ paths ∧ Rooted paths} (toSet (expand declared)) ∧
    toSet (expand (expand declared)) = toSet (expand declared) ∧
    toSet (expand (declared ++ more)) = toSet (expand declared) ∪ toSet (expand more) ∧
    toSet refresh.paths = leading given ∧
    refresh.search.paths.split? = (expand refresh.paths).split? ∧
    refresh.rowOrder.paths.split? = (expand refresh.paths).split? ∧
    ∀ column path name, (expand refresh.paths).split? column = some (path, name) ↔
      '.' ∉ name.toList ∧ column = path ++ "." ++ name ∧ ∃ start ∈ given, Leads path start := by
  intro refresh given
  have known : toSet refresh.paths = leading given := by
    have started : toSet (ofQuery request config query registry declared database debugging).paths =
        leading (toSet declared) := toSet_expand declared
    rw [toSet_declareAll, started, ← leading_union]
  have expanded : toSet (expand refresh.paths) = toSet refresh.paths := by rw [toSet_expand, known, leading_leading]
  have split : refresh.paths.split? = (expand refresh.paths).split? := split?_congr expanded.symm
  refine ⟨?_, ?_, ?_, known, split, split, fun column path name => ?_⟩
  · rw [toSet_expand]
    exact leading_isLeast _
  · rw [toSet_expand, toSet_expand, leading_leading]
  · rw [toSet_expand, toSet_expand, toSet_expand, toSet_append, leading_union]
  · rw [split?_eq_some_iff]
    change _ ∧ _ ∧ path ∈ toSet (expand refresh.paths) ↔ _
    rw [expanded, known]
    rfl

end Refresh

end DataGrid
