import DataGrid.Config
import DataGrid.Proofs.ClearTemplates
import DataGrid.Proofs.MergedFields
import DataGrid.Proofs.PageWindows

/-! What can be relied on once settings are taken from a record. Their names are checked, and so is how often a place is
read in the template of an order with nulls last; values are merged over the defaults as they are. What the template
and the size of a page are good for hangs on what was given for them. -/

namespace DataGrid

namespace Config

theorem toFields_plain {key : String} {held : Value} (found : Value.field? ({} : Config).toFields key = some held) :
    Value.Plain held := by
  have member := Value.mem_of_field? found
  simp only [toFields, List.mem_cons, Prod.mk.injEq, List.not_mem_nil, or_false] at member
  rcases member with ⟨_, rfl⟩ | ⟨_, rfl⟩ | ⟨_, rfl⟩ | ⟨_, rfl⟩ | ⟨_, rfl⟩ | ⟨_, rfl⟩ | ⟨_, rfl⟩ | ⟨_, rfl⟩
  all_goals constructor

theorem forM_ok {α : Type} {step : α → Except Error PUnit} {items : List α} (each : ∀ item ∈ items, step item = .ok ⟨⟩) :
    items.forM step = .ok ⟨⟩ := by
  induction items with
  | nil => rfl
  | cons item rest ih =>
    rw [List.forM, each item List.mem_cons_self]
    exact ih fun other member => each other (List.mem_cons_of_mem _ member)

/-- Texts can always be put in order. -/
theorem sortedNames_texts {names : List Value} (texts : ∀ name ∈ names, ∃ content, name = .text content) :
    ∃ sorted, sortedNames names = .ok sorted := by
  have compared : (names.forM fun first => names.forM fun second => do let _ ← goesFirst first second) = .ok ⟨⟩ := by
    refine forM_ok fun first member => forM_ok fun second member' => ?_
    obtain ⟨content, rfl⟩ := texts first member
    obtain ⟨content', rfl⟩ := texts second member'
    rfl
  unfold sortedNames
  split
  · exact ⟨_, rfl⟩
  · rw [compared]
    exact ⟨_, rfl⟩

/-- The settings that a record gives, in a section of their own or directly. -/
def given (fields : List (String × Value)) : List (String × Value) :=
  match Value.field? fields "datatables" with
  | some (.object inner) => inner
  | _ => fields

theorem ofValue_given (fields : List (String × Value)) : ofValue (.object fields) = ofKnown (given fields) := by
  cases fields with
  | nil => rfl
  | cons field rest =>
    have full : (Value.object (field :: rest)).truthy = true := rfl
    rw [ofValue, if_neg (by simp [full]), given]
    split <;> simp_all

variable {settings : List (String × Value)} {config : Config} {failure : Error}

/-- Names of settings pass; where there are others, the failure tells them. -/
theorem checkNames_cases (settings : List (String × Value)) :
    (checkNames (settings.map fun (name, _) => .text name) = .ok () ∧ ∀ name ∈ settings.map (·.1), name ∈ names) ∨
      ∃ shown, checkNames (settings.map fun (name, _) => .text name) = .error (.unknownSettings shown) := by
  cases unknown : (settings.map fun (name, _) => Value.text name).filter fun key => !isSetting key with
  | nil =>
    refine .inl ⟨by rw [checkNames, unknown]; rfl, ?_⟩
    intro name member
    obtain ⟨field, among, rfl⟩ := List.mem_map.mp member
    have every := List.filter_eq_nil_iff.mp unknown (.text field.1) (List.mem_map_of_mem among)
    simpa [isSetting] using every
  | cons first rest =>
    have texts : ∀ name ∈ first :: rest, ∃ content, name = .text content := by
      intro name member
      rw [← unknown] at member
      obtain ⟨field, _, rfl⟩ := List.mem_map.mp (List.mem_filter.mp member).1
      exact ⟨field.1, rfl⟩
    obtain ⟨sorted, done⟩ := sortedNames_texts texts
    refine .inr ⟨(Value.list sorted).shown, ?_⟩
    rw [checkNames, unknown, done]
    rfl

/-- A whole number of rows that a page has when a request names no size. -/
def HasPageSize (settings : List (String × Value)) : Prop :=
  ∀ value, Value.field? settings "default_page_size" = some value → ∃ size, value.index? = some size ∧ 1 ≤ size

/-- What settings are good for when they come from a record. The template takes its column and direction if it is a
clear text, and the pages have their windows if the request or the record says how many rows a page has. -/
structure Usable (settings : List (String × Value)) (config : Config) : Prop where
  known : ∀ name ∈ settings.map (·.1), name ∈ names
  template : config.nullsLastSql = (Value.field? settings "nulls_last_sql").getD ({} : Config).nullsLastSql
  order : ∀ template, config.nullsLastSql = .text template → Template.isClear template.toList = true →
    ∃ before between after, template = Template.verbatim before ++ "%s" ++ Template.verbatim between ++ "%s" ++
      Template.verbatim after ∧ ∀ column direction, Sql.Adapter.nullsLast column direction config.nullsLastSql =
        .ok (before ++ column ++ between ++ direction ++ after)
  pages : ∀ request sorting query, request.sorting = .ok sorting → 1 ≤ sorting.page →
    0 < sorting.pageSize ∨ HasPageSize settings → ∃ size paged, Paging.apply request config query = .ok paged ∧
      paged.limit.index? = some size ∧ paged.offset.index? = some ((sorting.page - 1) * size) ∧
      1 ≤ size ∧ 0 ≤ (sorting.page - 1) * size

/-- What becomes of the settings of a record. -/
inductive Outcome (settings : List (String × Value)) : Except Error Config → Prop where
  | refused {failure : Error} (kind : failure.kind = .configuration) : Outcome settings (.error failure)
  | uncounted {failure : Error} {value : Value} (found : Value.field? settings "nulls_last_sql" = some value)
      (noText : ∀ content, value ≠ .text content) (kind : failure.kind = .type ∨ failure.kind = .member) :
      Outcome settings (.error failure)
  | uncompared {field : String × Value} (member : field ∈ settings) (signaling : field.2.isSignaling = true) :
      Outcome settings (.error .signaledNumber)
  | usable {config : Config} (usable : Usable settings config) : Outcome settings (.ok config)

section

variable {merged : List (String × Value)} (distinct : (settings.map (·.1)).Nodup)
  (made : Value.mergeFields ({} : Config).toFields settings = .ok merged)

include distinct made

theorem ofFields_template :
    (ofFields merged).nullsLastSql = (Value.field? settings "nulls_last_sql").getD ({} : Config).nullsLastSql := by
  have merging := Value.mergeFields_field? distinct made "nulls_last_sql"
  change (Value.field? merged "nulls_last_sql").getD .null = _
  cases given : Value.field? settings "nulls_last_sql" with
  | none =>
    rw [given] at merging
    rw [merging]
    rfl
  | some value =>
    rw [given] at merging
    obtain ⟨held, taken, found⟩ := merging
    have replaced : Value.mergedOver ({} : Config).toFields "nulls_last_sql" value = .ok value := Value.mergeInto_text _ value
    cases taken.symm.trans replaced
    rw [found]
    rfl

theorem ofFields_pageSize (sized : HasPageSize settings) :
    ∃ size, (ofFields merged).defaultPageSize.index? = some size ∧ 1 ≤ size := by
  have merging := Value.mergeFields_field? distinct made "default_page_size"
  change ∃ size, ((Value.field? merged "default_page_size").getD .null).index? = some size ∧ 1 ≤ size
  cases given : Value.field? settings "default_page_size" with
  | none =>
    rw [given] at merging
    rw [merging]
    exact ⟨10, rfl, by decide⟩
  | some value =>
    rw [given] at merging
    obtain ⟨held, taken, found⟩ := merging
    obtain ⟨size, whole, positive⟩ := sized value given
    rw [found]
    exact ⟨size, Value.mergeInto_index whole taken, positive⟩

theorem ofFields_pages {request : Request} {sorting : Sorting} (query : Query) (read : request.sorting = .ok sorting)
    (numbered : 1 ≤ sorting.page) (sized : 0 < sorting.pageSize ∨ HasPageSize settings) :
    ∃ size paged, Paging.apply request (ofFields merged) query = .ok paged ∧ paged.limit.index? = some size ∧
      paged.offset.index? = some ((sorting.page - 1) * size) ∧ 1 ≤ size ∧ 0 ≤ (sorting.page - 1) * size := by
  have whole : ∃ size, (Paging.pageSize (ofFields merged) sorting).index? = some size ∧ 1 ≤ size := by
    unfold Paging.pageSize
    split
    · next asked => exact ⟨sorting.pageSize, rfl, asked⟩
    · next none => exact ofFields_pageSize distinct made (sized.resolve_left none)
  obtain ⟨size, whole, positive⟩ := whole
  refine ⟨size, _, Paging.apply_page read whole numbered, whole, rfl, positive, ?_⟩
  exact Int.mul_nonneg (by omega) (by omega)

end

/-- Only a template that is no text may have no places to be counted. -/
theorem templatePlaces_error {value : Value} (failed : templatePlaces value = .error failure) :
    (∀ content, value ≠ .text content) ∧ (failure.kind = .type ∨ failure.kind = .member) := by
  cases value with
  | text | list => cases failed
  | bytes =>
    cases failed
    exact ⟨nofun, .inl rfl⟩
  | _ =>
    cases failed
    exact ⟨nofun, .inr rfl⟩

/-- A section with a clear template and a page size. -/
private def chosen : List (String × Value) :=
  [("datatables", .object [("nulls_last_sql", .text "%s %s NULLS LAST /* 100%% */"), ("default_page_size", .int 25)])]

end Config

end DataGrid
