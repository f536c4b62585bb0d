import DataGrid.Proofs.ClearTexts
import DataGrid.Query.Method

/-! Raw clauses in a statement. Whatever else stands in the statement, a clear text binds its values in their order and
is written with their literals in its places; no other text does so for all values. Places are counted in any case, but
for an order without places, whose bindings are not looked at. -/

namespace DataGrid

open Sql

namespace Sql

variable {dialect : Dialect}

theorem valuesFrom_behind {first second : List Piece}
    (same : ∀ shared, valuesFrom shared first = valuesFrom shared second) (before : List Piece) (shared : List String) :
    valuesFrom shared (before ++ first) = valuesFrom shared (before ++ second) := by
  induction before generalizing shared with
  | nil => exact same shared
  | cons piece rest ih => cases piece <;> simp only [List.cons_append, valuesFrom, ih]

theorem valuesFrom_bound (shared : List String) (values : List Value) (after : List Piece) :
    valuesFrom shared (values.map (.bound "") ++ after) = values ++ valuesFrom shared after := by
  induction values with
  | nil => rfl
  | cons value rest ih => simp only [List.map_cons, List.cons_append, valuesFrom, ih]

theorem inlineText_replace {first second : Piece} (same : first.inline dialect = second.inline dialect)
    (before after : List Piece) :
    inlineText dialect (before ++ first :: after) = inlineText dialect (before ++ second :: after) := by
  simp only [inlineText, writtenText, List.mapM_append, List.mapM_cons, same]

theorem inlineText_text (dialect : Dialect) (content : String) : inlineText dialect [.text content] = .ok content := by
  have joined : inlineText dialect [.text content] = .ok (String.join [content]) := rfl
  rw [joined]
  simp [String.join]

theorem inlineText_fragment (dialect : Dialect) (content : Fragment) :
    inlineText dialect [.fragment content] = fragmentText dialect (fun _ => dialect.literal) content := by
  have inline : Piece.inline dialect (.fragment content) =
      liftM (fragmentText dialect (fun _ => dialect.literal) content) := rfl
  cases written : fragmentText dialect (fun _ => dialect.literal) content with
  | error failure =>
    simp only [inlineText, writtenText, List.mapM_cons, inline, written]
    rfl
  | ok content =>
    rw [← inlineText_text dialect content]
    refine inlineText_replace ?_ [] []
    rw [inline, written]
    rfl

namespace Fragment

/-- Whether a fragment, wherever it stands in a statement, binds the values of its places in their order, and is written
as its text with their literals in the places. -/
structure Faithful (sql : String) (bindings : List Value) (fragment : Fragment) : Prop where
  values : ∀ before after, boundValues (before ++ .fragment fragment :: after) =
    boundValues (before ++ (bindings.map (.bound "") ++ after))
  text : ∀ dialect literals, bindings.mapM (Dialect.literal dialect) = .ok literals → ∀ before after,
    inlineText dialect (before ++ .fragment fragment :: after) =
      inlineText dialect
        (before ++ .text (String.ofList (fillPlaces (literals.map unescaped) (dialect.percent sql.toList))) :: after)

theorem faithful_of_clear {sql : String} {bindings : List Value} (clear : isClear true sql.toList = true)
    (many : sql.toList.count '?' = bindings.length) :
    ∃ fragment, ofSql sql bindings = .ok fragment ∧ Faithful sql bindings fragment := by
  have placed := bindingOf_placed bindings
  refine ⟨_, ofSql_clear clear many, ?_, ?_⟩
  · intro before after
    refine valuesFrom_behind (fun shared => ?_) before []
    have free := freeNames_marked placed many
    have held : valuesFrom [] (assemble (bindingOf bindings) (marked 0 sql.toList)) = bindings :=
      valuesFrom_marked placed many nofun
    have nothing : shared.filter (List.contains []) = [] := by simp
    rw [valuesFrom_bound, Sql.valuesFrom, free, nothing, held]
    rfl
  · intro dialect literals written before after
    refine inlineText_replace ?_ before after
    have chars := fragmentChars_marked placed many written
    have text : fragmentText dialect (fun _ => dialect.literal)
        (assemble (bindingOf bindings) (marked 0 sql.toList)) =
          .ok (String.ofList (fillPlaces (literals.map unescaped) (dialect.percent sql.toList))) := by
      rw [fragmentText, chars, Except.ok_bind, unescapeColons_fillPlaces clear]
      rfl
    change (liftM (fragmentText dialect (fun _ => dialect.literal) _) : Namer String) = _
    rw [text]
    rfl

theorem clear_of_faithful {sql : String}
    (faithful : ∀ bindings, sql.toList.count '?' = bindings.length →
      ∃ fragment, ofSql sql bindings = .ok fragment ∧ Faithful sql bindings fragment) :
    isClear true sql.toList = true := by
  obtain ⟨fragment, made, kept⟩ := faithful (countedValues (sql.toList.count '?')) (by simp [countedValues])
  refine isClear_of_written made fun literals written => ?_
  have text := kept.text .standard literals written [] []
  rw [List.nil_append, List.nil_append, inlineText_fragment, inlineText_text] at text
  have same : literals.map unescaped = literals := by
    obtain rfl := Except.ok.inj (written.symm.trans (mapM_counted _))
    refine (List.map_congr_left fun literal inside => unescaped_plain ?_).trans (List.map_id _)
    obtain ⟨index, _, rfl⟩ := List.mem_map.mp inside
    rw [String.toList_ofList]
    exact (countedText_telling _).plain _
  rw [text, same]
  rfl

end Fragment

end Sql

/-- A raw text and its bindings, as they are handed over. -/
def rawArguments (sql : String) (bindings : List Value) : List Argument := [.value (.text sql), .value (.list bindings)]

theorem fragmentOf_list (sql : String) (bindings : List Value) :
    fragmentOf (.text sql) (.list bindings) = Fragment.ofSql sql bindings := rfl

/-- Raw clauses go into a group as they are made. -/
theorem Store.call_raw (store : Store) (adapter : Adapter) (id : GroupId) (sql : String) (bindings : List Value) :
    store.call adapter id .raw (rawArguments sql bindings) =
        (Fragment.ofSql sql bindings).map (fun fragment => store.add id .and (.cond (.atom (.fragment fragment)))) ∧
      store.call adapter id .orRaw (rawArguments sql bindings) =
        (Fragment.ofSql sql bindings).map (fun fragment => store.add id .or (.cond (.atom (.fragment fragment)))) := by
  have joins (method : GroupMethod) (word : Value) (junction : Junction) (named : word.toJunction = .ok junction)
      (made : method.entry adapter (rawArguments sql bindings) =
        (rawOf (.text sql) (.list bindings)).map fun entry => (entry, word)) :
      store.call adapter id method (rawArguments sql bindings) = (Fragment.ofSql sql bindings).map fun fragment =>
        store.add id junction (.cond (.atom (.fragment fragment))) := by
    rw [Store.call, made, rawOf, fragmentOf_list]
    cases Fragment.ofSql sql bindings with
    | error failure => rfl
    | ok fragment => exact (congrArg (· >>= fun junction => Except.ok (store.add id junction _)) named)
  refine ⟨joins .raw (.text "and") .and rfl ?_, joins .orRaw (.text "or") .or rfl ?_⟩
  all_goals
    rw [GroupMethod.entry]
    change (rawOf (.text sql) (.list bindings) >>= fun entry => .ok (entry, _)) = _
    cases rawOf (.text sql) (.list bindings) <;> rfl

theorem Query.orderByRaw_eq (query : Query) (sql : String) (bindings : List Value) :
    query.orderByRaw (.text sql) (.list bindings) =
      if '?' ∈ sql.toList then (Fragment.ofSql sql bindings).map fun fragment => query.orderBy (.fragment fragment)
      else .ok (query.orderBy (.text sql)) := by
  have holds : Value.holdsPlace (.text sql) = .ok (sql.toList.contains '?') := rfl
  rw [Query.orderByRaw, holds, Except.ok_bind, fragmentOf_list]
  split
  · next place =>
    rw [if_pos (List.contains_iff_mem.mp place)]
    cases Fragment.ofSql sql bindings <;> rfl
  · next free =>
    rw [if_neg fun place => free (List.contains_iff_mem.mpr place)]
    rfl

/-- Whether a result is a failure for how something was set up. -/
def Misconfigured {α : Type} (result : Except Error α) : Prop :=
  ∃ failure, result = .error failure ∧ failure.kind = .configuration

theorem misconfigured_map {α β : Type} (result : Except Error α) (next : α → β) :
    Misconfigured (result.map next) ↔ Misconfigured result := by
  cases result with
  | error failure =>
    constructor <;> rintro ⟨_, same, kind⟩ <;> cases same <;> exact ⟨_, rfl, kind⟩
  | ok value => exact ⟨nofun, nofun⟩

theorem Sql.Fragment.ofSql_misconfigured (sql : String) (bindings : List Value) :
    Misconfigured (ofSql sql bindings) ↔ sql.toList.count '?' ≠ bindings.length := by
  rw [ofSql]
  dsimp only
  split
  · next different => exact ⟨fun _ => different, fun _ => ⟨_, rfl, rfl⟩⟩
  · next many =>
    refine ⟨?_, fun different => absurd different many⟩
    rintro ⟨failure, made, kind⟩
    split at made
    · cases made
    · cases made
      cases kind

-- A cast of a column is clear, a cast of a place is not.
example : Fragment.isClear true "a::text = ?".toList = true := by decide

example : Fragment.isClear true "a = ?::text".toList = false := by decide

end DataGrid
