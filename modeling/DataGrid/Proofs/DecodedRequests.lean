import DataGrid.Proofs.FilterPasses
import DataGrid.Proofs.TwinRuns

/-! Parts of a request that are sent decoded or as JSON text. A part that stands in the place of the text it was decoded
from is read as that text is, by every accessor; a filter that counts as absent may differ, which no pass can tell. So
two such requests make one run: the same statements are sent, and the same answer or failure and the same notes come of
it. -/

namespace DataGrid

open Sql

namespace Json

theorem readFields_object {depth fuel : Nat} {fields : List (String × Value)} {chars rest : List Char} {value : Value}
    (read : readFields depth fuel fields chars = .ok (value, rest)) : ∃ fields, value = .object fields := by
  induction fuel generalizing fields chars with
  | zero => cases read
  | succ fuel ih =>
    unfold readFields at read
    split at read
    · obtain ⟨⟨name, after⟩, _, read⟩ := Except.bind_ok read
      dsimp only at read
      split at read
      · obtain ⟨⟨part, after⟩, _, read⟩ := Except.bind_ok read
        dsimp only at read
        split at read
        · cases read
          exact ⟨_, rfl⟩
        · exact ih read
        · cases read
      · cases read
    · cases read

theorem readItems_list {depth fuel : Nat} {items : List Value} {chars rest : List Char} {value : Value}
    (read : readItems depth fuel items chars = .ok (value, rest)) : ∃ items, value = .list items := by
  induction fuel generalizing items chars with
  | zero => cases read
  | succ fuel ih =>
    unfold readItems at read
    obtain ⟨⟨part, after⟩, _, read⟩ := Except.bind_ok read
    dsimp only at read
    split at read
    · cases read
      exact ⟨_, rfl⟩
    · exact ih read
    · cases read

theorem readWord_ne_bytes {chars rest : List Char} {content : List UInt8} :
    readWord chars ≠ some (.bytes content, rest) := by
  intro read
  obtain ⟨⟨word, value⟩, member, same⟩ := List.exists_of_findSome?_eq_some read
  dsimp only at same
  split at same
  · cases same
    simp at member
  · cases same

theorem readNumber_ne_bytes {chars rest : List Char} {content : List UInt8} :
    readNumber chars ≠ some (.bytes content, rest) := by
  fun_cases readNumber chars <;> simp

/-- What is read is never bytes. -/
theorem readValue_ne_bytes {depth fuel : Nat} {chars rest : List Char} {content : List UInt8} :
    readValue depth fuel chars ≠ .ok (.bytes content, rest) := by
  intro read
  cases fuel with
  | zero => cases read
  | succ fuel =>
    unfold readValue at read
    split at read
    · obtain ⟨_, _, same⟩ := Except.bind_ok read
      cases same
    · obtain ⟨_, _, read⟩ := Except.bind_ok read
      split at read
      · cases read
      · obtain ⟨_, same⟩ := readFields_object read
        cases same
    · obtain ⟨_, _, read⟩ := Except.bind_ok read
      split at read
      · cases read
      · obtain ⟨_, same⟩ := readItems_list read
        cases same
    · split at read
      · next found word =>
        cases read
        exact readWord_ne_bytes word
      · split at read
        · revert read
          split <;> dsimp only <;> split <;> exact nofun
        · next found number =>
          cases read
          exact readNumber_ne_bytes number
        · cases read

theorem parseChars_ne_bytes {parameter : String} {chars : List Char} {content : List UInt8} :
    parseChars parameter chars ≠ .ok (.bytes content) := by
  intro parsed
  rw [parseChars, readDocument] at parsed
  split at parsed
  · cases parsed
  · next value after read =>
    split at parsed
    · cases parsed
      exact readValue_ne_bytes read
    · cases parsed

theorem parse_ne_bytes {parameter : String} {chars : List Char} {content : List UInt8} :
    parse parameter chars ≠ .ok (.bytes content) := by
  unfold parse
  split
  · exact nofun
  · exact parseChars_ne_bytes

theorem parse_nil {parameter : String} {value : Value} : parse parameter [] ≠ .ok value := nofun

end Json

namespace Value

variable {value : Value}

theorem presence_eq (present : value.truthy = true) : value.presence = value := if_pos present

theorem presence_null (absent : value.truthy = false) : value.presence = .null := by
  rw [presence, absent]
  rfl

theorem presence_presence (value : Value) : value.presence.presence = value.presence := by
  cases present : value.truthy with
  | true => rw [presence_eq present, presence_eq present]
  | false =>
    rw [presence_null present]
    rfl

theorem truthy_presence (value : Value) : value.presence.truthy = value.truthy := by
  cases present : value.truthy with
  | true => rw [presence_eq present, present]
  | false =>
    rw [presence_null present]
    rfl

end Value

namespace Request

/-- The parameters that may be sent as JSON text. -/
def jsonParameters : List String := ["columns", "sort", "search", "filter"]

/-- Whether a value is what a text, or the bytes of one, says in JSON. A text in quotes says a text again, which is not
taken for a value. -/
inductive Decodes (name : String) : (sent value : Value) → Prop where
  | text {content value} (parsed : Json.parse name content.toList = .ok value) (plain : ∀ text, value ≠ .text text) :
    Decodes name (.text content) value
  | bytes {content chars value}
    (characters : Text.decode (Text.detect content).1 true (Text.detect content).2 = some chars)
    (parsed : Json.parseChars name chars = .ok value) (plain : ∀ text, value ≠ .text text) :
    Decodes name (.bytes content) value

/-- Whether parameters are those of a request, some of them with a value in the place of its JSON text. -/
def DecodedFrom (sent decoded : List (String × Value)) : Prop :=
  List.Forall₂ (fun one other => other.1 = one.1 ∧
    (other.2 = one.2 ∨ one.1 ∈ jsonParameters ∧ Decodes one.1 one.2 other.2)) sent decoded

variable {name : String} {sent value : Value}

/-- A decoded value is no JSON text itself, neither as a text nor as bytes. -/
theorem Decodes.value_plain (decodes : Decodes name sent value) :
    (∀ text, value ≠ .text text) ∧ ∀ content, value ≠ .bytes content := by
  cases decodes with
  | text parsed plain => exact ⟨plain, fun _ same => Json.parse_ne_bytes (same ▸ parsed)⟩
  | bytes _ parsed plain => exact ⟨plain, fun _ same => Json.parseChars_ne_bytes (same ▸ parsed)⟩

/-- The text that a value was decoded from is read as that value. -/
theorem Decodes.decoded_sent {request : Request} (decodes : Decodes name sent value)
    (one : request.parameter name = .ok sent) : request.decoded name = .ok value := by
  rw [Request.decoded, one, Except.ok_bind]
  cases decodes with
  | @text content _ parsed =>
    have filled : (content == "") = false := by
      refine beq_false_of_ne fun empty => ?_
      rw [empty] at parsed
      exact Json.parse_nil parsed
    dsimp only
    rw [filled]
    exact parsed
  | @bytes content _ _ characters parsed =>
    have filled : content.isEmpty = false := by
      rw [List.isEmpty_eq_false_iff]
      rintro rfl
      cases characters
      exact Json.parse_nil parsed
    dsimp only
    rw [filled, if_neg (by simp), characters]
    exact parsed

/-- A decoded value is read as it is. -/
theorem Decodes.decoded_value {request : Request} (decodes : Decodes name sent value)
    (other : request.parameter name = .ok value) : request.decoded name = .ok value := by
  obtain ⟨plain, whole⟩ := decodes.value_plain
  rw [Request.decoded, other, Except.ok_bind]
  split
  · exact absurd rfl (plain _)
  · exact absurd rfl (whole _)
  · rfl

/-- A filter that is sent as text is read as what the text says, present or not. -/
theorem Decodes.filters_sent {request : Request} (decodes : Decodes "filter" sent value)
    (one : request.parameter "filter" = .ok sent) : request.filters = .ok value := by
  rw [← decodes.decoded_sent one, filters, one, Except.ok_bind]
  cases decodes <;> rfl

theorem Decodes.filters_value {request : Request} (decodes : Decodes "filter" sent value)
    (other : request.parameter "filter" = .ok value) : request.filters = .ok value.presence := by
  obtain ⟨plain, whole⟩ := decodes.value_plain
  rw [filters, other, Except.ok_bind]
  split
  · exact absurd rfl (plain _)
  · exact absurd rfl (whole _)
  · rfl

/-- A parameter stays, or its value is decoded in place. -/
theorem DecodedFrom.parameter {fields others : List (String × Value)} (same : DecodedFrom fields others)
    (name : String) :
    Request.parameter ⟨.object others⟩ name = Request.parameter ⟨.object fields⟩ name ∨
      name ∈ jsonParameters ∧ ∃ sent value, Request.parameter ⟨.object fields⟩ name = .ok sent ∧
        Request.parameter ⟨.object others⟩ name = .ok value ∧ Decodes name sent value := by
  unfold Request.parameter Value.fieldOrNull Value.field?
  induction same with
  | nil => exact .inl rfl
  | @cons one other _ _ entry _ ih =>
    obtain ⟨own, sent⟩ := one
    obtain ⟨other, value⟩ := other
    obtain ⟨rfl, decoded⟩ := entry
    by_cases found : other = name
    · subst found
      simp only [List.find?_cons_of_pos, BEq.rfl]
      rcases decoded with rfl | ⟨json, decodes⟩
      · exact .inl rfl
      · exact .inr ⟨json, sent, value, rfl, rfl, decodes⟩
    · simp only [List.find?_cons_of_neg, beq_iff_eq, found, not_false_eq_true]
      exact ih

/-- Requests that no accessor tells apart, but that a filter may be absent in one way or another. -/
structure Alike (first second : Request) : Prop where
  check : second.check = first.check
  columns : second.columns = first.columns
  sort : second.recordParameter "sort" = first.recordParameter "sort"
  search : second.recordParameter "search" = first.recordParameter "search"
  filters : Except.Rel (fun one other => other.presence = one.presence) first.filters second.filters
  draw : second.parameter "draw" = first.parameter "draw"

/-- A request with a number of its own is served, whatever else it holds. -/
theorem check_drawn {fields : List (String × Value)} (drawn : (Value.fieldOrNull fields "draw").truthy = true) :
    check ⟨.object fields⟩ = .ok () := by
  simp [check, parameter, drawn]
  rfl

/-- Requests with a number are alike when some parts of one of them are decoded in the other one. -/
theorem DecodedFrom.alike {fields others : List (String × Value)} (same : DecodedFrom fields others)
    (drawn : (Value.fieldOrNull fields "draw").truthy = true) : Alike ⟨.object fields⟩ ⟨.object others⟩ := by
  have draw : Request.parameter ⟨.object others⟩ "draw" = Request.parameter ⟨.object fields⟩ "draw" := by
    rcases same.parameter "draw" with kept | ⟨json, _⟩
    · exact kept
    · exact absurd json (by decide)
  have drawn' : (Value.fieldOrNull others "draw").truthy = true := Except.ok.inj draw ▸ drawn
  have decoded (name : String) : Request.decoded ⟨.object others⟩ name = Request.decoded ⟨.object fields⟩ name := by
    rcases same.parameter name with kept | ⟨_, sent, value, one, other, decodes⟩
    · rw [Request.decoded, Request.decoded, kept]
    · rw [decodes.decoded_sent one, decodes.decoded_value other]
  refine ⟨(check_drawn drawn').trans (check_drawn drawn).symm, ?_, ?_, ?_, ?_, draw⟩
  · rw [columns, columns, listParameter, listParameter, decoded]
  · rw [recordParameter, recordParameter, decoded]
  · rw [recordParameter, recordParameter, decoded]
  · rcases same.parameter "filter" with kept | ⟨_, sent, value, one, other, decodes⟩
    · rw [filters, filters, kept, decoded]
      exact .refl (fun value => Eq.refl value.presence) _
    · rw [decodes.filters_sent one, decodes.filters_value other]
      exact .ok value.presence_presence

namespace Alike

variable {first second : Request} (alike : first.Alike second)

include alike

theorem sorting : second.sorting = first.sorting := by rw [Request.sorting, Request.sorting, alike.sort]

theorem keyword : second.keyword = first.keyword := by rw [Request.keyword, Request.keyword, alike.search]

theorem isSearchable : second.isSearchable = first.isSearchable := by
  have present : Except.Rel Eq (first.filters >>= fun value => pure value.truthy : Except Error Bool)
      (second.filters >>= fun value => pure value.truthy) := by
    refine alike.filters.bind fun one other same => .ok ?_
    rw [← one.truthy_presence, ← same, other.truthy_presence]
  unfold Request.isSearchable
  rw [alike.search, alike.keyword, present.eq]

theorem orderTerm : second.orderTerm? = first.orderTerm? := by
  rw [Request.orderTerm?, Request.orderTerm?, alike.sorting, alike.columns]

theorem isPaged : second.isPaged = first.isPaged := by rw [Request.isPaged, Request.isPaged, alike.sort]

end Alike

end Request

namespace Search

variable {search : Search} {other : Request}

/-- A search looks at the columns and the keyword of its request. -/
theorem runGlobal_congr (alike : search.request.Alike other) :
    { search with request := other }.runGlobal = search.runGlobal := by
  unfold runGlobal searchAll
  dsimp only
  rw [alike.keyword, alike.columns]
  rfl

theorem runOwn_congr (alike : search.request.Alike other) :
    { search with request := other }.runOwn = search.runOwn := by
  unfold runOwn
  dsimp only
  rw [alike.columns]
  rfl

end Search

/-- An order looks at the term that its request asks for. -/
theorem RowOrder.run_congr {order : RowOrder} {other : Request} (alike : order.request.Alike other) :
    { order with request := other }.run = order.run := by
  unfold RowOrder.run
  dsimp only
  rw [alike.orderTerm]
  rfl

theorem FilterTree.ofValue_presence (value : Value) : FilterTree.ofValue value.presence = FilterTree.ofValue value := by
  cases present : value.truthy with
  | true => rw [Value.presence_eq present]
  | false =>
    rw [Value.presence_null present]
    unfold FilterTree.ofValue
    rw [present]
    rfl

namespace Refresh

/-- Whether a refresh is another one with a request in place of its own. -/
def Swapped (request other : Request) (first second : Refresh) : Prop :=
  first.request = request ∧ second = { first with request := other }

variable {request other : Request}

theorem swapped_modify {change : Refresh → Refresh} (kept : ∀ refresh, (change refresh).request = refresh.request)
    (beside : ∀ refresh, change { refresh with request := other } = { change refresh with request := other }) :
    Action.Mirrors (Swapped request other) Eq (modify change) (modify change) := by
  refine .modify ?_
  rintro refresh _ ⟨same, rfl⟩
  exact ⟨(kept refresh).trans same, beside refresh⟩

theorem swapped_modify_then {α : Type} {change : Refresh → Refresh} {next : PUnit → Action Refresh α}
    (kept : ∀ refresh, (change refresh).request = refresh.request)
    (beside : ∀ refresh, change { refresh with request := other } = { change refresh with request := other })
    (steps : Action.Mirrors (Swapped request other) Eq (next ()) (next ())) :
    Action.Mirrors (Swapped request other) Eq (modify change >>= next) (modify change >>= next) :=
  (swapped_modify kept beside).bind fun _ _ _ => steps

theorem swapped_onDatabase {α : Type} (step : Action (Option Database) α) :
    Action.Mirrors (Swapped request other) Eq (onDatabase step) (onDatabase step) := by
  refine .on ?_ ?_
  · rintro refresh _ ⟨_, rfl⟩
    rfl
  · rintro refresh _ database ⟨same, rfl⟩
    exact ⟨same, rfl⟩

theorem swapped_onQuery {α : Type} (step : Action Query α) :
    Action.Mirrors (Swapped request other) Eq (onQuery step) (onQuery step) := by
  refine .on ?_ ?_
  · rintro refresh _ ⟨_, rfl⟩
    rfl
  · rintro refresh _ query ⟨same, rfl⟩
    exact ⟨same, rfl⟩

theorem note_mirrors (pass : String) : Action.Mirrors (Swapped request other) Eq (note pass) (note pass) := by
  unfold note
  refine .read ?_
  rintro refresh _ ⟨_, rfl⟩
  dsimp only
  split
  · refine .ask (.refl (fun _ => rfl) _) ?_
    rintro text _ rfl
    exact swapped_modify (fun _ => rfl) fun _ => rfl
  · exact .pure rfl

theorem count_mirrors : Action.Mirrors (Swapped request other) Eq count count := by
  unfold count
  refine .read ?_
  rintro refresh _ ⟨_, rfl⟩
  refine .ask (.refl (fun _ => rfl) _) ?_
  rintro statement _ rfl
  refine (swapped_onDatabase _).bind ?_
  rintro answer _ rfl
  split
  · exact .lift (.refl (fun _ => rfl) _)
  · exact .pure rfl

theorem totalCount_mirrors : Action.Mirrors (Swapped request other) Eq totalCount totalCount := by
  unfold totalCount
  refine .read ?_
  rintro refresh _ ⟨_, rfl⟩
  dsimp only
  split
  · exact .pure rfl
  · refine count_mirrors.bind ?_
    rintro total _ rfl
    exact swapped_modify_then (fun _ => rfl) (fun _ => rfl) (.pure rfl)

theorem rows_mirrors : Action.Mirrors (Swapped request other) Eq rows rows := by
  unfold rows
  refine .read ?_
  rintro refresh _ ⟨_, rfl⟩
  refine .ask (.refl (fun _ => rfl) _) ?_
  rintro statement _ rfl
  refine (swapped_onDatabase _).bind ?_
  rintro rows _ rfl
  exact .lift (.refl (fun _ => rfl) _)

theorem scriptFilter_mirrors : Action.Mirrors (Swapped request other) Eq scriptFilter scriptFilter := by
  unfold scriptFilter
  refine .read ?_
  rintro refresh _ ⟨_, rfl⟩
  dsimp only
  split
  · exact .pure rfl
  · exact (swapped_onQuery _).bind fun _ _ _ => swapped_modify (fun _ => rfl) fun _ => rfl

/-- A search that makes the same of both requests makes the same of both refreshes. -/
theorem runSearch_mirrors {pass : Search → Action Searching Unit}
    (same : ∀ search : Search, search.request = request → pass { search with request := other } = pass search) :
    Action.Mirrors (Swapped request other) Eq (runSearch pass) (runSearch pass) := by
  unfold runSearch
  refine .read ?_
  rintro refresh _ ⟨own, rfl⟩
  have searches : pass { refresh with request := other }.search = pass refresh.search := same refresh.search own
  dsimp only at searches ⊢
  rw [searches]
  refine Action.Mirrors.bind (.on ?_ ?_) ?_
  · rintro refresh _ ⟨_, rfl⟩
    rfl
  · rintro refresh _ searching ⟨own, rfl⟩
    exact ⟨own, rfl⟩
  · rintro applied _ rfl
    exact swapped_modify (fun _ => rfl) fun _ => rfl

section Alike
variable (alike : request.Alike other)

include alike

theorem globalSearch_mirrors : Action.Mirrors (Swapped request other) Eq globalSearch globalSearch := by
  refine (runSearch_mirrors fun search own => ?_).bind fun _ _ _ => note_mirrors _
  exact search.runGlobal_congr (own ▸ alike)

theorem columnSearch_mirrors : Action.Mirrors (Swapped request other) Eq columnSearch columnSearch := by
  refine (runSearch_mirrors fun search own => ?_).bind fun _ _ _ => note_mirrors _
  exact search.runOwn_congr (own ▸ alike)

theorem treeFilter_mirrors : Action.Mirrors (Swapped request other) Eq treeFilter treeFilter := by
  have reads {value value' : Value} (same : value'.presence = value.presence) :
      Action.Mirrors (Swapped request other) Eq (readTree value) (readTree value') := by
    unfold readTree
    rw [← FilterTree.ofValue_presence value', same, FilterTree.ofValue_presence]
    exact swapped_modify_then (fun _ => rfl) (fun _ => rfl) (.lift (.refl (fun _ => rfl) _))
  unfold treeFilter
  refine .read ?_
  rintro refresh _ ⟨own, rfl⟩
  dsimp only
  rw [own]
  refine .ask alike.filters fun value value' same => (reads same).bind ?_
  rintro tree _ rfl
  cases tree with
  | none => exact .pure rfl
  | some tree =>
    refine .read ?_
    rintro refresh _ ⟨own, rfl⟩
    refine Action.Mirrors.bind (.on ?_ ?_) fun _ _ _ => ?_
    · rintro refresh _ ⟨_, rfl⟩
      rfl
    · rintro refresh _ scope ⟨own, rfl⟩
      exact ⟨own, rfl⟩
    · exact swapped_modify_then (fun _ => rfl) (fun _ => rfl) (note_mirrors _)

theorem searchPass_mirrors : Action.Mirrors (Swapped request other) Eq searchPass searchPass := by
  unfold searchPass
  refine .read ?_
  rintro refresh _ ⟨own, rfl⟩
  dsimp only
  rw [own, alike.isSearchable]
  split
  · refine .ask (.refl (fun _ => rfl) _) ?_
    rintro searchable _ rfl
    split
    · exact globalSearch_mirrors alike
    · exact .pure rfl
  · exact .pure rfl

theorem laterPasses_mirrors : Action.Mirrors (Swapped request other) Eq laterPasses laterPasses := by
  unfold laterPasses
  refine scriptFilter_mirrors.bind fun _ _ _ => (columnSearch_mirrors alike).bind fun _ _ _ =>
    (treeFilter_mirrors alike).bind fun _ _ _ => .read ?_
  rintro refresh _ ⟨_, rfl⟩
  dsimp only
  split
  · refine count_mirrors.bind ?_
    rintro filtered _ rfl
    exact swapped_modify (fun _ => rfl) fun _ => rfl
  · refine totalCount_mirrors.bind ?_
    rintro filtered _ rfl
    exact swapped_modify (fun _ => rfl) fun _ => rfl

theorem filterRows_mirrors : Action.Mirrors (Swapped request other) Eq filterRows filterRows := by
  intro before before' swapped
  rw [filterRows_eq, filterRows_eq]
  exact ((searchPass_mirrors alike).bind fun _ _ _ => laterPasses_mirrors alike) before before' swapped

theorem orderRows_mirrors : Action.Mirrors (Swapped request other) Eq orderRows orderRows := by
  unfold orderRows
  refine .read ?_
  rintro refresh _ ⟨own, rfl⟩
  have orders : { refresh with request := other }.rowOrder.run = refresh.rowOrder.run :=
    @RowOrder.run_congr refresh.rowOrder other (show refresh.request.Alike other from own ▸ alike)
  rw [orders]
  exact (swapped_onQuery _).bind fun _ _ _ => note_mirrors _

theorem setWindow_mirrors : Action.Mirrors (Swapped request other) Eq setWindow setWindow := by
  unfold setWindow
  refine .read ?_
  rintro refresh _ ⟨own, rfl⟩
  have window : Paging.apply other refresh.config refresh.query =
      Paging.apply refresh.request refresh.config refresh.query := by
    rw [Paging.apply, Paging.apply, own, alike.sorting]
  dsimp only
  rw [window]
  split
  · have raised : Action.Mirrors (Swapped request other) (fun _ _ => False) (throw .pagingApplied : Action Refresh PUnit)
        (throw .pagingApplied : Action Refresh PUnit) := .raise _
    exact raised.bind fun _ _ none => none.elim
  · refine .ask (.refl (fun _ => rfl) _) ?_
    rintro query _ rfl
    exact Action.Mirrors.set ⟨own, rfl⟩

theorem page_mirrors : Action.Mirrors (Swapped request other) Eq page page :=
  (setWindow_mirrors alike).bind fun _ _ _ => note_mirrors _

theorem pageIfAsked_mirrors : Action.Mirrors (Swapped request other) Eq pageIfAsked pageIfAsked := by
  unfold pageIfAsked
  refine .read ?_
  rintro refresh _ ⟨own, rfl⟩
  dsimp only
  rw [own, alike.isPaged]
  refine .ask (.refl (fun _ => rfl) _) ?_
  rintro asked _ rfl
  split
  · exact page_mirrors alike
  · exact .pure rfl

/-- The whole run makes the same of both requests. -/
theorem run_mirrors : Action.Mirrors (Swapped request other) Eq run run := by
  unfold run
  refine .read ?_
  rintro refresh _ ⟨own, rfl⟩
  have accepted : other.check = refresh.request.check := own ▸ alike.check
  have number : draw other = draw refresh.request := by rw [draw, draw, own, alike.draw]
  have answered (total : Int) : Action.Mirrors (Swapped request other) Eq
      (do
        let draw ← liftM (draw refresh.request)
        let filtered := (← get).filtered
        return { draw := draw, total := total, filtered := filtered, rows := ← rows : Answer })
      (do
        let draw ← liftM (draw refresh.request)
        let filtered := (← get).filtered
        return { draw := draw, total := total, filtered := filtered, rows := ← rows : Answer }) := by
    refine .ask (.refl (fun _ => rfl) _) ?_
    rintro number _ rfl
    refine .read ?_
    rintro final _ ⟨_, rfl⟩
    refine rows_mirrors.bind ?_
    rintro rows _ rfl
    exact .pure rfl
  dsimp only
  rw [accepted, number]
  refine .ask (.refl (fun _ => rfl) _) fun _ _ _ => totalCount_mirrors.bind ?_
  rintro total _ rfl
  split
  · exact (filterRows_mirrors alike).bind fun _ _ _ => (orderRows_mirrors alike).bind fun _ _ _ =>
      (pageIfAsked_mirrors alike).bind fun _ _ _ => answered total
  · exact swapped_modify_then (fun _ => rfl) (fun _ => rfl) (answered total)

end Alike

/-- A request with a number, some of whose columns, sort order, search word and filter tree are sent as JSON text or
bytes: with the decoded values in their places a refresh makes the same run. It comes to the same answer or failure, with
the same statements sent to the database, the same query and the same notes. -/
theorem run_decoded (refresh : Refresh) {sent decoded : List (String × Value)}
    (asked : refresh.request = ⟨.object sent⟩) (drawn : (Value.fieldOrNull sent "draw").truthy = true)
    (same : Request.DecodedFrom sent decoded) :
    run { refresh with request := ⟨.object decoded⟩ } =
      ((run refresh).1, { (run refresh).2 with request := ⟨.object decoded⟩ }) := by
  have swapped : Swapped ⟨.object sent⟩ ⟨.object decoded⟩ refresh { refresh with request := ⟨.object decoded⟩ } :=
    ⟨asked, rfl⟩
  obtain ⟨outcomes, _, final⟩ := run_mirrors (same.alike drawn) _ _ swapped
  exact Prod.ext outcomes.eq.symm final

/-- Columns as a text, a search word as the bytes of one, and a filter that is none. -/
private def wordBytes : List UInt8 := [0x7B, 0x22, 0x76, 0x61, 0x6C, 0x75, 0x65, 0x22, 0x3A, 0x22, 0x61, 0x22, 0x7D]

private def bookTexts : List (String × Value) :=
  [("draw", .int 1), ("columns", .text "[\x7b\"data\":\"title\",\"searchable\":true\x7d]"),
    ("search", .bytes wordBytes), ("filter", .text "[]")]

private def bookValues : List (String × Value) :=
  [("draw", .int 1), ("columns", .list [.object [("data", .text "title"), ("searchable", .bool true)]]),
    ("search", .object [("value", .text "a")]), ("filter", .list [])]

private def books : Refresh :=
  .ofQuery ⟨.object bookTexts⟩ {} (.ofSelect { Select.empty with source := some (.table ⟨"books", none⟩) } .sqlite false)
    {} [] (some { scalars := [.int 3, .int 2], pages := [[[("id", .int 1)]]] }) false

theorem run_decoded_books : Request.DecodedFrom bookTexts bookValues ∧
    ((run books).1.map Answer.filtered).toOption = some (some 2) ∧
    run { books with request := ⟨.object bookValues⟩ } =
      ((run books).1, { (run books).2 with request := ⟨.object bookValues⟩ }) := by
  have word : Text.decode (Text.detect wordBytes).1 true (Text.detect wordBytes).2 =
      some "\x7b\"value\":\"a\"\x7d".toList := by decide +kernel
  have columns : Json.parse "columns" "[\x7b\"data\":\"title\",\"searchable\":true\x7d]".toList =
      .ok (.list [.object [("data", .text "title"), ("searchable", .bool true)]]) := by cbv
  have search : Json.parseChars "search" "\x7b\"value\":\"a\"\x7d".toList = .ok (.object [("value", .text "a")]) := by
    cbv
  have filter : Json.parse "filter" "[]".toList = .ok (.list []) := by cbv
  have same : Request.DecodedFrom bookTexts bookValues :=
    .cons ⟨rfl, .inl rfl⟩ (.cons ⟨rfl, .inr ⟨by decide, .text columns nofun⟩⟩
      (.cons ⟨rfl, .inr ⟨by decide, .bytes word search nofun⟩⟩
        (.cons ⟨rfl, .inr ⟨by decide, .text filter nofun⟩⟩ .nil)))
  exact ⟨same, by decide +kernel, run_decoded books rfl rfl same⟩

end Refresh

end DataGrid
