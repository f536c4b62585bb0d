import DataGrid.Proofs.ColumnEntries
import Mathlib.Data.Int.Order.Basic

/-! What a request answers. Whatever a client sends, each accessor comes to a value of its type or refuses the request,
but for these: a page or a size without bounds, bytes that are no text, JSON that is too deep or has too long a number,
a value that has to be written and has no text, and a path or a filter of another kind than the type allows. Each
accessor is characterized: nothing else that is sent can make it fail in another way. Of parameters that are JSON texts
within the limits, only the first and the last are left. -/

namespace DataGrid

/-- Whether a value is a tree of conditions or left out, as far as its own type tells. -/
def Value.IsTree (value : Value) : Prop :=
  value = .null ∨ (∃ items, value = .list items) ∨ ∃ fields, value = .object fields

/-- Whether a value is a text of JSON, to be decoded before it says anything. -/
def Value.isJson : Value → Bool
  | .text _ | .bytes _ => true
  | _ => false

namespace Request

variable (fields : List (String × Value)) (name : String)

theorem served_listParameter :
    Served (fun _ => True) (listParameter ⟨.object fields⟩ name) ↔ Legible (Value.fieldOrNull fields name) := by
  rw [listParameter, served_bind, served_decoded]
  refine and_iff_left fun value _ => ?_
  split <;> trivial

theorem served_recordParameter :
    Served (fun _ => True) (recordParameter ⟨.object fields⟩ name) ↔ Legible (Value.fieldOrNull fields name) := by
  rw [recordParameter, served_bind, served_decoded]
  refine and_iff_left fun value _ => ?_
  split <;> trivial

/-- Whether the columns of a request can be read or are refused. -/
def ColumnsClean : Prop :=
  Legible (Value.fieldOrNull fields "columns") ∧
    ∀ entries, listParameter ⟨.object fields⟩ "columns" = .ok entries → Column.Spelled entries

/-- Whether the sort order of a request can be read, with its page, or is refused. -/
def SortingClean : Prop :=
  Legible (Value.fieldOrNull fields "sort") ∧
    ∀ sort, recordParameter ⟨.object fields⟩ "sort" = .ok sort →
      (Value.fieldOrNull sort "sortBy").presence.HasText ∧ IntegerReads (Value.fieldOrNull sort "page") ∧
        ((∃ n, integer "page" 1 (Value.fieldOrNull sort "page") = .ok n) →
          IntegerReads (Value.fieldOrNull sort "rowsPerPage"))

/-- Whether the search word of a request can be read or is refused. -/
def KeywordClean : Prop :=
  Legible (Value.fieldOrNull fields "search") ∧
    ∀ search, recordParameter ⟨.object fields⟩ "search" = .ok search → (Value.fieldOrNull search "value").HasText

theorem served_columns : Served (fun _ => True) (columns ⟨.object fields⟩) ↔ ColumnsClean fields := by
  rw [columns, served_bind, served_listParameter]
  exact and_congr_right fun _ => forall_congr' fun entries => imp_congr_right fun _ => Column.served_mapM entries

theorem served_sorting : Served (fun _ => True) (sorting ⟨.object fields⟩) ↔ SortingClean fields := by
  rw [sorting, served_bind, served_recordParameter]
  refine and_congr_right fun _ => forall_congr' fun sort => imp_congr_right fun _ => ?_
  dsimp only
  rw [(Value.checkText_checks _).served_bind, served_bind, served_integer]
  refine and_congr_right fun _ => and_congr_right fun _ => ?_
  simp only [served_bind, served_integer, served_pure, implies_true, and_true]
  exact ⟨fun all one => one.elim all, fun all n read => all ⟨n, read⟩⟩

example : sorting ⟨.object [("sort", .object [("page", .float (.infinite false))])]⟩ =
    .error (.tooLarge "cannot convert float infinity to integer") := rfl

theorem served_keyword : Served (fun _ => True) (keyword ⟨.object fields⟩) ↔ KeywordClean fields := by
  rw [keyword, served_bind, served_recordParameter]
  refine and_congr_right fun _ => forall_congr' fun search => imp_congr_right fun _ => ?_
  dsimp only
  rw [(Value.checkText_checks _).served_bind]
  exact and_iff_left trivial

/-! ### Parameters sent as JSON texts -/

variable {fields name} in
theorem listParameter_hasText (texted : Texted (Value.fieldOrNull fields name)) {entries : List Value}
    (read : listParameter ⟨.object fields⟩ name = .ok entries) : (Value.list entries).HasText := by
  obtain ⟨value, sent, same⟩ := Except.bind_ok read
  split at same
  · cases same
    exact decoded_hasText texted sent
  · cases same
    exact Value.hasText_nil.1

variable {fields name} in
theorem recordParameter_hasText (texted : Texted (Value.fieldOrNull fields name)) {record : List (String × Value)}
    (read : recordParameter ⟨.object fields⟩ name = .ok record) : (Value.object record).HasText := by
  obtain ⟨value, sent, same⟩ := Except.bind_ok read
  split at same
  · cases same
    exact decoded_hasText texted sent
  · cases same
    exact Value.hasText_nil.2

theorem columnsClean_of_texted (texted : Texted (Value.fieldOrNull fields "columns")) : ColumnsClean fields :=
  ⟨texted.legible, fun _ read => Column.spelled_of_hasText (listParameter_hasText texted read)⟩

theorem keywordClean_of_texted (texted : Texted (Value.fieldOrNull fields "search")) : KeywordClean fields :=
  ⟨texted.legible, fun _ read => (recordParameter_hasText texted read).field "value"⟩

variable {fields name} in
theorem Texted.decoded_null (texted : Texted (Value.fieldOrNull fields name))
    (direct : (Value.fieldOrNull fields name).isJson = false) {value : Value}
    (read : decoded ⟨.object fields⟩ name = .ok value) : value = .null := by
  have found : parameter ⟨.object fields⟩ name = .ok (Value.fieldOrNull fields name) := rfl
  rw [decoded, found, Except.ok_bind] at read
  cases sent : Value.fieldOrNull fields name with
  | null =>
    rw [sent] at read
    exact (Except.ok.inj read).symm
  | text _ | bytes _ =>
    rw [sent] at direct
    cases direct
  | _ =>
    rw [sent] at texted
    exact texted.elim

/-- Whether the page of a request has bounds, and its size too when the page is read. -/
def PagesBounded : Prop :=
  ∀ sort, recordParameter ⟨.object fields⟩ "sort" = .ok sort →
    ¬(Value.fieldOrNull sort "page").Unbounded ∧
      ((∃ n, integer "page" 1 (Value.fieldOrNull sort "page") = .ok n) →
        ¬(Value.fieldOrNull sort "rowsPerPage").Unbounded)

theorem sortingClean_iff_pagesBounded (texted : Texted (Value.fieldOrNull fields "sort")) :
    SortingClean fields ↔ PagesBounded fields := by
  refine (and_iff_right texted.legible).trans (forall_congr' fun sort => imp_congr_right fun read => ?_)
  have written := (recordParameter_hasText texted read).field
  have reads (name : String) : IntegerReads (Value.fieldOrNull sort name) ↔ ¬(Value.fieldOrNull sort name).Unbounded :=
    and_iff_left (.inl (written name))
  rw [reads, reads]
  refine and_iff_right ?_
  unfold Value.presence
  split
  · exact written "sortBy"
  · exact Value.hasText_scalar trivial rfl

/-! ### Paths and filters -/

/-- Whether the paths of the columns in some places are texts, when the columns can be read. -/
def PathsClean (names : List String) (picked : Nat → Prop) : Prop :=
  ∀ entries, listParameter ⟨.object fields⟩ "columns" = .ok entries →
    (∃ found, columns ⟨.object fields⟩ = .ok found) →
      ∀ index entry, picked index → entries[index]? = some entry → ∀ name ∈ names, Column.PathIn entry name

theorem pathsClean_iff {good : Column → Prop} {names : List String} (picked : Nat → Prop)
    (same : ∀ entry column, Column.ofValue entry = .ok column →
      (good column ↔ ∀ name ∈ names, Column.PathIn entry name)) :
    PathsClean fields names picked ↔ ∀ found, columns ⟨.object fields⟩ = .ok found →
      ∀ index column, picked index → found[index]? = some column → good column := by
  constructor
  · intro clean found read index column here one
    obtain ⟨entries, sent, each⟩ := Except.bind_ok read
    have pair := congrArg (·[index]?) (Except.mapM_map each)
    simp only [List.getElem?_map, one, Option.map_some, Option.map_eq_some_iff] at pair
    obtain ⟨entry, place, made⟩ := pair
    exact (same entry column made).mpr (clean entries sent ⟨found, read⟩ index entry here place)
  · rintro clean entries sent ⟨found, read⟩ index entry here place
    obtain ⟨_, sent', each⟩ := Except.bind_ok read
    cases sent.symm.trans sent'
    have pair := congrArg (·[index]?) (Except.mapM_map each)
    simp only [List.getElem?_map, place, Option.map_some] at pair
    obtain ⟨column, one, made⟩ := Option.map_eq_some_iff.mp pair.symm
    exact (same entry column made.symm).mp (clean found read index column here one)

theorem declared_iff {entry : Value} {column : Column} (read : Column.ofValue entry = .ok column) :
    column.Declared ↔ ∀ name ∈ ["json", "fallback"], Column.PathIn entry name := by
  obtain ⟨path, fallback⟩ := Column.ofValue_paths read
  simp [Column.Declared, path, fallback]

theorem jsonPath_iff {entry : Value} {column : Column} (read : Column.ofValue entry = .ok column) :
    column.jsonPath.OptionalText ↔ ∀ name ∈ ["json"], Column.PathIn entry name := by
  simp [(Column.ofValue_paths read).1]

/-- Whether the filter of a request is a tree or left out, or is refused. -/
def FilterClean : Prop :=
  Legible (Value.fieldOrNull fields "filter") ∧
    ∀ value, decoded ⟨.object fields⟩ "filter" = .ok value →
      Value.IsTree (if (Value.fieldOrNull fields "filter").isJson then value else value.presence)

theorem filters_eq :
    filters ⟨.object fields⟩ = (fun value : Value =>
      if (Value.fieldOrNull fields "filter").isJson then value else value.presence) <$>
        decoded ⟨.object fields⟩ "filter" := by
  have sent : parameter ⟨.object fields⟩ "filter" = .ok (Value.fieldOrNull fields "filter") := rfl
  rw [filters, sent, Except.ok_bind]
  cases kind : Value.fieldOrNull fields "filter" with
  | text _ | bytes _ => exact (id_map _).symm
  | _ =>
    rw [decoded, sent, kind]
    rfl

theorem served_filters : Served Value.IsTree (filters ⟨.object fields⟩) ↔ FilterClean fields := by
  rw [filters_eq, served_map, served_and, served_decoded]
  rfl

theorem served_isSearchable :
    Served (fun _ => True) (isSearchable ⟨.object fields⟩) ↔ KeywordClean fields ∧
      ∀ search, recordParameter ⟨.object fields⟩ "search" = .ok search → search ≠ [] →
        (Value.fieldOrNull search "value").displayOrEmpty = "" → Legible (Value.fieldOrNull fields "filter") := by
  rw [isSearchable, served_bind, served_recordParameter, KeywordClean, and_assoc, ← forall_and]
  refine and_congr_right fun _ => forall_congr' fun search => ?_
  rw [← forall_and]
  refine imp_congr_right fun found => ?_
  by_cases empty : search = []
  · subst empty
    exact iff_of_true trivial ⟨Value.hasText_scalar trivial rfl, fun filled => absurd rfl filled⟩
  · have word : keyword ⟨.object fields⟩ = (Value.fieldOrNull search "value").checkText >>= fun _ =>
        .ok (Value.fieldOrNull search "value").displayOrEmpty := by
      rw [keyword, found, Except.ok_bind]
      rfl
    rw [if_neg (by simpa using empty), word, bind_assoc, (Value.checkText_checks _).served_bind, Except.ok_bind]
    refine and_congr_right fun _ => ?_
    split
    · next asked => exact iff_of_true trivial fun _ blank => absurd blank (by simpa using asked)
    · next unasked =>
      have blank : (Value.fieldOrNull search "value").displayOrEmpty = "" := by simpa using unasked
      rw [served_bind, filters_eq, served_map, served_decoded]
      exact ⟨fun both _ _ => both.1, fun legible => ⟨legible empty blank, fun _ _ => trivial⟩⟩

theorem order_int (a b : Int) : Value.order (.int a) (.int b) = .ok (some (compare a b)) := by
  have scaled : Value.order (.int a) (.int b) = .ok (some (compare (a * 1) (b * 1))) := rfl
  rwa [Int.mul_one, Int.mul_one] at scaled

theorem positionAmong_int (size : Nat) (index : Int) :
    positionAmong size (.int index) = .ok (if 0 ≤ index ∧ index < size then some index.toNat else none) := by
  have least : (some (compare 0 index) ≠ some .lt && some (compare 0 index) ≠ some .eq) = true ↔ index < 0 := by
    simp only [ne_eq, Option.some.injEq, compare_lt_iff_lt, compare_eq_iff_eq, Bool.and_eq_true, decide_eq_true_eq]
    omega
  have most : some (compare index (size : Int)) ≠ some .lt ↔ ¬index < size := by
    rw [ne_eq, Option.some.injEq, compare_lt_iff_lt]
  unfold positionAmong
  rw [order_int, order_int, Except.ok_bind]
  by_cases below : index < 0
  · rw [if_pos (least.mpr below), if_neg (by omega)]
    rfl
  · rw [if_neg (mt least.mp below), Except.ok_bind]
    by_cases inside : index < size
    · rw [if_neg (mt most.mp (not_not.mpr inside)), if_pos ⟨by omega, inside⟩]
      rfl
    · rw [if_pos (most.mpr inside), if_neg (by omega)]
      rfl

theorem column?_int (request : Request) (index : Int) :
    request.column? (.int index) =
      (fun found : List Column => if 0 ≤ index then found[index.toNat]? else none) <$> request.columns := by
  unfold column?
  cases request.columns with
  | error failure => rfl
  | ok found =>
    rw [Except.ok_bind, positionAmong_int]
    refine congrArg Except.ok ?_
    dsimp only
    by_cases least : 0 ≤ index
    · by_cases inside : index < found.length
      · rw [if_pos ⟨least, inside⟩, if_pos least]
        rfl
      · rw [if_neg (fun both => inside both.2), if_pos least, List.getElem?_eq_none (by omega)]
        rfl
    · rw [if_neg (fun both => least both.1), if_neg least]
      rfl

/-- Whether the column that a name sorts by stands in some place and may be ordered by. -/
def SortedAt (sortBy : String) (place : Nat) : Prop :=
  ∃ found column, columns ⟨.object fields⟩ = .ok found ∧ found.find? (·.name == sortBy) = some column ∧
    column.orderable = true ∧ found[place]? = some column

theorem ofValue_object : ofValue (.object fields) = ⟨.object fields⟩ := by
  cases fields <;> rfl

end Request

/-- What is read of a request. Positions are whole numbers. -/
inductive Accessor where
  | check | columns | searchableColumns | sorting | page | pageSize | isOrderable | orderTerm | isPaged | keyword
  | filters | isSearchable
  | column (index : Int) | columnName (index : Int) | columnKeyword (index : Int) | isRegex (index : Int)
  | jsonPath (index : Int) | isColumnSearchable (index : Int) (own : Bool)

namespace Accessor

/-- Whether an index names one of so many columns, counted from the end when it is negative. -/
def InRange (size : Nat) (index : Int) : Prop :=
  -(size : Int) ≤ index ∧ index < size ∧ -Value.largestPosition - 1 ≤ index ∧ index ≤ Value.largestPosition

/-- Whether an accessor comes to a value of its type or refuses the request. -/
def Answers (request : Request) : Accessor → Prop
  | check => Served (fun _ => True) request.check
  | columns => Served (fun found => ∀ column ∈ found, column.Declared) request.columns
  | searchableColumns => Served (fun _ => True) request.searchableColumns
  | sorting => Served (fun _ => True) request.sorting
  | page => Served (fun _ => True) (Sorting.page <$> request.sorting)
  | pageSize => Served (fun _ => True) (Sorting.pageSize <$> request.sorting)
  | isOrderable => Served (fun _ => True) request.isOrderable
  | orderTerm =>
    Served (fun found => ∀ term ∈ found, term.jsonPath.OptionalText ∧ term.fallback.OptionalText) request.orderTerm?
  | isPaged => Served (fun _ => True) request.isPaged
  | keyword => Served (fun _ => True) request.keyword
  | filters => Served Value.IsTree request.filters
  | isSearchable => Served (fun _ => True) request.isSearchable
  | column index => Served (fun found => ∀ column ∈ found, column.Declared) (request.column? (.int index))
  | columnName index => Served (fun _ => True) (request.columnName (.int index))
  | columnKeyword index => Served (fun _ => True) (request.columnKeyword (.int index))
  | isRegex index => Served (fun _ => True) (request.isRegex (.int index))
  | jsonPath index => Served Value.OptionalText (request.jsonPath (.int index))
  | isColumnSearchable index own => Served (fun _ => True) (request.isColumnSearchable (.int index) own)

/-- What a request must hold for an accessor to answer it: nothing that fails in another way than by a refusal. -/
def Clean (fields : List (String × Value)) : Accessor → Prop
  | check => True
  | columns => Request.ColumnsClean fields ∧ Request.PathsClean fields ["json", "fallback"] fun _ => True
  | column index => Request.ColumnsClean fields ∧ Request.PathsClean fields ["json", "fallback"] fun place => place = index
  | jsonPath index => Request.ColumnsClean fields ∧ Request.PathsClean fields ["json"] fun place => place = index
  | columnName index =>
    Request.ColumnsClean fields ∧ ∀ found, Request.columns ⟨.object fields⟩ = .ok found → InRange found.length index
  | searchableColumns | columnKeyword _ | isRegex _ | isColumnSearchable .. => Request.ColumnsClean fields
  | sorting | page | pageSize | isOrderable => Request.SortingClean fields
  | orderTerm =>
    Request.SortingClean fields ∧ ∀ sorting, Request.sorting ⟨.object fields⟩ = .ok sorting → sorting.column ≠ "" →
      Request.ColumnsClean fields ∧ Request.PathsClean fields ["json", "fallback"] (Request.SortedAt fields sorting.column)
  | isPaged => Request.Legible (Value.fieldOrNull fields "sort")
  | keyword => Request.KeywordClean fields
  | filters => Request.FilterClean fields
  | isSearchable =>
    Request.KeywordClean fields ∧
      ∀ search, Request.recordParameter ⟨.object fields⟩ "search" = .ok search → search ≠ [] →
        (Value.fieldOrNull search "value").displayOrEmpty = "" → Request.Legible (Value.fieldOrNull fields "filter")

theorem served_column (fields : List (String × Value)) (index : Int) (good : Option Column → Prop) :
    Served good (Request.column? ⟨.object fields⟩ (.int index)) ↔ Request.ColumnsClean fields ∧
      ∀ found, Request.columns ⟨.object fields⟩ = .ok found →
        good (if 0 ≤ index then found[index.toNat]? else none) := by
  rw [Request.column?_int, served_map, served_and, Request.served_columns]

theorem forall_place {found : List Column} {index : Int} {good : Column → Prop} :
    (∀ column ∈ (if 0 ≤ index then found[index.toNat]? else none), good column) ↔
      ∀ (place : Nat) column, (place : Int) = index → found[place]? = some column → good column := by
  split
  · next least =>
    constructor
    · rintro each place column rfl one
      exact each column one
    · exact fun each column one => each index.toNat column (Int.toNat_of_nonneg least) one
  · next negative =>
    refine iff_of_true nofun ?_
    rintro place _ rfl
    exact absurd (Int.natCast_nonneg place) negative

theorem check_answers (fields : List (String × Value)) : Served (fun _ => True) (Request.check ⟨.object fields⟩) := by
  have sent (name : String) : Request.parameter ⟨.object fields⟩ name = .ok (Value.fieldOrNull fields name) := rfl
  unfold Request.check
  simp only [sent, Except.ok_bind]
  split
  · rfl
  · split
    · rfl
    · trivial

theorem position?_found {α : Type} (members : List α) (index : Int) :
    (∃ member, ((Value.position? members.length index).bind fun n => members[n]?) = some member) ↔
      -(members.length : Int) ≤ index ∧ index < members.length := by
  unfold Value.position?
  dsimp only
  generalize same : (if index < 0 then index + members.length else index : Int) = place
  by_cases inside : 0 ≤ place ∧ place < members.length
  · rw [if_pos inside, Option.bind_some, List.getElem?_eq_getElem (by omega)]
    exact iff_of_true ⟨_, rfl⟩ (by split at same <;> omega)
  · rw [if_neg inside, Option.bind_none]
    exact iff_of_false nofun (by split at same <;> omega)

theorem served_memberAt {α : Type} (reason : String) (members : List α) (index : Int) :
    Served (fun _ => True) (Value.memberAt reason members index) ↔ InRange members.length index := by
  have found := position?_found members index
  unfold Value.memberAt InRange
  split
  · next beyond => exact iff_of_false nofun (by omega)
  · next held =>
    split
    · next member one =>
      have inside := found.mp ⟨member, one⟩
      exact iff_of_true trivial (by omega)
    · next missing =>
      refine iff_of_false nofun fun inside => ?_
      obtain ⟨member, one⟩ := found.mpr ⟨inside.1, inside.2.1⟩
      cases missing.symm.trans one

theorem served_columnName (fields : List (String × Value)) (index : Int) :
    Served (fun _ => True) (Request.columnName ⟨.object fields⟩ (.int index)) ↔ Request.ColumnsClean fields ∧
      ∀ found, Request.columns ⟨.object fields⟩ = .ok found → InRange found.length index := by
  rw [Request.columnName, served_bind, Request.served_columns]
  refine and_congr_right fun _ => forall_congr' fun found => imp_congr_right fun _ => ?_
  dsimp only [Value.index?]
  rw [bind_pure_comp, served_map]
  exact served_memberAt _ found index

/-- All places of the column that a name sorts by hold that column. -/
theorem sortedAt_declared {fields : List (String × Value)} {found : List Column}
    (read : Request.columns ⟨.object fields⟩ = .ok found) (sortBy : String) :
    (∀ place column, Request.SortedAt fields sortBy place → found[place]? = some column → column.Declared) ↔
      ∀ column, found.find? (·.name == sortBy) = some column → column.orderable = true → column.Declared := by
  constructor
  · intro each column first ordered
    obtain ⟨place, one⟩ := List.mem_iff_getElem?.mp (List.mem_of_find?_eq_some first)
    exact each place column ⟨found, column, read, first, ordered, one⟩ one
  · rintro each place column ⟨_, other, read', first, ordered, one'⟩ one
    cases read.symm.trans read'
    cases one.symm.trans one'
    exact each column first ordered

theorem served_orderTerm (fields : List (String × Value)) :
    orderTerm.Answers ⟨.object fields⟩ ↔ orderTerm.Clean fields := by
  rw [Answers, Request.orderTerm?, served_bind, Request.served_sorting, Clean]
  refine and_congr_right fun _ => forall_congr' fun sorting => imp_congr_right fun _ => ?_
  split
  · next unsorted =>
    refine iff_of_true ?_ fun named => absurd (by simpa using unsorted) named
    rintro _ ⟨⟩
  · next sorted =>
    have named : sorting.column ≠ "" := by simpa using sorted
    rw [served_bind, Request.served_columns, forall_prop_of_true named]
    refine and_congr_right fun _ => ?_
    rw [Request.pathsClean_iff fields _ fun _ _ => Request.declared_iff]
    refine forall_congr' fun found => imp_congr_right fun read => ?_
    rw [sortedAt_declared read]
    cases found.find? (·.name == sorting.column) with
    | none =>
      refine iff_of_true ?_ ?_
      · rintro _ ⟨⟩
        exact ⟨.inl rfl, .inl rfl⟩
      · rintro _ ⟨⟩
    | some column =>
      dsimp only
      split
      · next ordered =>
        constructor
        · rintro declared _ ⟨⟩ _
          exact declared _ rfl
        · rintro each _ ⟨⟩
          exact each column rfl ordered
      · next fixed =>
        refine iff_of_true ?_ ?_
        · rintro _ ⟨⟩
        · rintro _ ⟨⟩ ordered
          exact absurd ordered fixed

theorem answers_iff (fields : List (String × Value)) (accessor : Accessor) :
    accessor.Answers (.ofValue (.object fields)) ↔ accessor.Clean fields := by
  rw [Request.ofValue_object]
  cases accessor with
  | check => exact iff_of_true (check_answers fields) trivial
  | columns =>
    refine (served_and _).trans (and_congr (Request.served_columns fields) ?_)
    rw [Request.pathsClean_iff fields _ fun _ _ => Request.declared_iff]
    refine forall_congr' fun found => imp_congr_right fun _ => ?_
    constructor
    · exact fun each place column _ one => each column (List.mem_of_getElem? one)
    · intro each column member
      obtain ⟨place, one⟩ := List.mem_iff_getElem?.mp member
      exact each place column trivial one
  | searchableColumns =>
    rw [Answers, Request.searchableColumns, bind_pure_comp, served_map]
    exact Request.served_columns fields
  | sorting => exact Request.served_sorting fields
  | page | pageSize => exact (served_map _ _).trans (Request.served_sorting fields)
  | isOrderable =>
    rw [Answers, Request.isOrderable, bind_pure_comp, served_map]
    exact Request.served_sorting fields
  | orderTerm => exact served_orderTerm fields
  | isPaged =>
    rw [Answers, Request.isPaged, bind_pure_comp, served_map]
    exact Request.served_recordParameter fields "sort"
  | keyword => exact Request.served_keyword fields
  | filters => exact Request.served_filters fields
  | isSearchable => exact Request.served_isSearchable fields
  | column index =>
    refine (served_column fields index _).trans (and_congr_right fun _ => ?_)
    rw [Request.pathsClean_iff fields _ fun _ _ => Request.declared_iff]
    exact forall_congr' fun found => imp_congr_right fun _ => forall_place
  | columnName index => exact served_columnName fields index
  | columnKeyword index =>
    rw [Answers, Request.columnKeyword, bind_pure_comp, served_map]
    exact (served_column fields index _).trans (and_iff_left fun _ _ => trivial)
  | isRegex index =>
    rw [Answers, Request.isRegex, bind_pure_comp, served_map]
    exact (served_column fields index _).trans (and_iff_left fun _ _ => trivial)
  | jsonPath index =>
    rw [Answers, Request.jsonPath, bind_pure_comp, served_map]
    refine (served_column fields index _).trans (and_congr_right fun _ => ?_)
    rw [Request.pathsClean_iff fields _ fun _ _ => Request.jsonPath_iff]
    refine forall_congr' fun found => imp_congr_right fun _ => ?_
    rw [← forall_place]
    cases (if 0 ≤ index then found[index.toNat]? else none) with
    | none => exact iff_of_true (.inl rfl) fun _ absent => absurd absent (Option.not_mem_none _)
    | some column => exact ⟨fun text _ same => Option.some.inj same ▸ text, fun each => each column rfl⟩
  | isColumnSearchable index own =>
    rw [Answers, Request.isColumnSearchable, served_bind]
    refine (and_iff_left fun found _ => ?_).trans
      ((served_column fields index _).trans (and_iff_left fun _ _ => trivial))
    cases found <;> trivial

/-- What is left to hold when all parameters are JSON texts within the limits. -/
def Checked (fields : List (String × Value)) : Accessor → Prop
  | columns => Request.PathsClean fields ["json", "fallback"] fun _ => True
  | column index => Request.PathsClean fields ["json", "fallback"] fun place => place = index
  | jsonPath index => Request.PathsClean fields ["json"] fun place => place = index
  | columnName index => ∀ found, Request.columns ⟨.object fields⟩ = .ok found → InRange found.length index
  | sorting | page | pageSize | isOrderable => Request.PagesBounded fields
  | orderTerm =>
    Request.PagesBounded fields ∧ ∀ sorting, Request.sorting ⟨.object fields⟩ = .ok sorting → sorting.column ≠ "" →
      Request.PathsClean fields ["json", "fallback"] (Request.SortedAt fields sorting.column)
  | filters => ∀ value, Request.decoded ⟨.object fields⟩ "filter" = .ok value → value.IsTree
  | check | searchableColumns | columnKeyword _ | isRegex _ | isColumnSearchable .. | isPaged | keyword
  | isSearchable => True

/-- Parameters that are JSON texts within the limits only fail by a number without bounds and by what is passed on
unchecked. -/
theorem clean_iff_checked {fields : List (String × Value)}
    (texted : ∀ name ∈ Request.jsonParameters, Request.Texted (Value.fieldOrNull fields name)) (accessor : Accessor) :
    accessor.Clean fields ↔ accessor.Checked fields := by
  have columns := Request.columnsClean_of_texted fields (texted "columns" (by decide))
  have keyword := Request.keywordClean_of_texted fields (texted "search" (by decide))
  have sorted := Request.sortingClean_iff_pagesBounded fields (texted "sort" (by decide))
  cases accessor with
  | check => rfl
  | columns | column _ | jsonPath _ | columnName _ => exact and_iff_right columns
  | searchableColumns | columnKeyword _ | isRegex _ | isColumnSearchable _ _ => exact iff_of_true columns trivial
  | sorting | page | pageSize | isOrderable => exact sorted
  | orderTerm =>
    refine and_congr sorted (forall_congr' fun sorting => imp_congr_right fun _ => imp_congr_right fun _ => ?_)
    exact and_iff_right columns
  | isPaged => exact iff_of_true (texted "sort" (by decide)).legible trivial
  | keyword => exact iff_of_true keyword trivial
  | isSearchable => exact iff_of_true ⟨keyword, fun _ _ _ _ => (texted "filter" (by decide)).legible⟩ trivial
  | filters =>
    have filter := texted "filter" (by decide)
    refine (and_iff_right filter.legible).trans (forall_congr' fun value => imp_congr_right fun read => ?_)
    split
    · rfl
    · next direct =>
      rw [filter.decoded_null (by simpa using direct) read]
      rfl

end Accessor

end DataGrid
