import DataGrid.Refresh.Pass
import DataGrid.Proofs.ActionSteps
import DataGrid.Proofs.RecordFields

/-! The windows of the pages. With pages of one size every row lies in the window of exactly one page. A window is set
once: after that every call is refused, and a call that is refused leaves the query and the mark of the window alone. -/

namespace DataGrid

open Sql

/-- Whether a row lies in the window of a query. -/
def Query.HasRow (query : Query) (row : Int) : Prop :=
  ∃ offset limit, query.offset.index? = some offset ∧ query.limit.index? = some limit ∧
    offset ≤ row ∧ row < offset + limit

namespace Request

/-- Whether a request asks for a page with the row on it. -/
def ShowsRow (request : Request) (config : Config) (query : Query) (row : Int) : Prop :=
  ∃ paged, Paging.apply request config query = .ok paged ∧ paged.HasRow row

/-- The request for another page. -/
def atPage (request : Request) (page : Int) : Request :=
  match request.parameters, request.recordParameter "sort" with
  | .object fields, .ok sort =>
    ⟨.object (Value.setField fields "sort" (.object (Value.setField sort "page" (.int page))))⟩
  | _, _ => request

variable {request : Request} {sorting : Sorting}

theorem sorting_atPage (read : request.sorting = .ok sorting) (page : Int) :
    (request.atPage page).sorting = .ok { sorting with page := page } := by
  obtain ⟨sort, found, read⟩ := Except.bind_ok read
  obtain ⟨⟨⟩, written, read⟩ := Except.bind_ok read
  obtain ⟨number, _, read⟩ := Except.bind_ok read
  obtain ⟨size, sized, same⟩ := Except.bind_ok read
  cases same
  have sent : ∃ fields, request.parameters = .object fields := by
    obtain ⟨content, decoded, _⟩ := Except.bind_ok found
    obtain ⟨content, given, _⟩ := Except.bind_ok decoded
    unfold parameter at given
    split at given
    · exact ⟨_, by assumption⟩
    · cases given
  obtain ⟨fields, sent⟩ := sent
  have turned : request.atPage page =
      ⟨.object (Value.setField fields "sort" (.object (Value.setField sort "page" (.int page))))⟩ := by
    rw [atPage, sent, found]
  have given : (request.atPage page).parameter "sort" = .ok (.object (Value.setField sort "page" (.int page))) := by
    rw [turned]
    exact congrArg Except.ok (Value.fieldOrNull_setField_same ..)
  have paged : (request.atPage page).recordParameter "sort" = .ok (Value.setField sort "page" (.int page)) := by
    rw [recordParameter, decoded, given]
    rfl
  have kept (name : String) (other : name ≠ "page") :
      Value.fieldOrNull (Value.setField sort "page" (.int page)) name = Value.fieldOrNull sort name :=
    Value.fieldOrNull_setField_other other sort _
  simp only [Request.sorting, paged, Except.ok_bind, kept "sortBy" (by decide), kept "descending" (by decide),
    kept "rowsPerPage" (by decide), Value.fieldOrNull_setField_same, written, sized]
  rfl

end Request

namespace Paging

variable {request : Request} {config : Config} {query : Query} {sorting : Sorting} {size row : Int}

theorem rowsOfPages_whole {pages : Nat} {size : Value} {number : Int} (whole : size.index? = some number) :
    rowsOfPages pages size = .ok (.int (pages * number)) := by
  cases size with
  | int size =>
    cases whole
    rfl
  | bool flag =>
    cases whole
    cases flag <;> simp [rowsOfPages]
  | _ => cases whole

theorem apply_page (read : request.sorting = .ok sorting) (whole : (pageSize config sorting).index? = some size)
    (numbered : 1 ≤ sorting.page) : apply request config query =
      .ok { query with offset := .int ((sorting.page - 1) * size), limit := pageSize config sorting } := by
  have before : ((sorting.page - 1).toNat : Int) = sorting.page - 1 := Int.toNat_of_nonneg (by omega)
  rw [apply, read, Except.ok_bind, offset, if_neg (by omega), rowsOfPages_whole whole, before]
  rfl

theorem apply_refused (read : request.sorting = .ok sorting) (below : sorting.page < 1) :
    apply request config query = .error (refusal sorting.page) := by
  rw [apply, read, Except.ok_bind, offset, if_pos below]
  rfl

/-- The page of a row is the one behind the pages that are filled by the rows before it. -/
theorem page_iff {page : Int} (positive : 0 < size) :
    (page - 1) * size ≤ row ∧ row < (page - 1) * size + size ↔ page = row / size + 1 := by
  have ends : (page - 1) * size + size = page * size := by rw [Int.sub_mul, Int.one_mul, Int.sub_add_cancel]
  rw [ends, ← Int.le_ediv_iff_mul_le positive, ← Int.ediv_lt_iff_lt_mul positive]
  omega

theorem showsRow_iff (read : request.sorting = .ok sorting) (whole : (pageSize config sorting).index? = some size)
    (positive : 0 < size) (counted : 0 ≤ row) :
    request.ShowsRow config query row ↔ sorting.page = row / size + 1 := by
  rcases Int.lt_or_le sorting.page 1 with below | numbered
  · have refused : ¬request.ShowsRow config query row := by
      rintro ⟨paged, made, _⟩
      rw [apply_refused read below] at made
      cases made
    have earlier : sorting.page ≠ row / size + 1 := by
      have := Int.ediv_nonneg counted (Int.le_of_lt positive)
      omega
    exact iff_of_false refused earlier
  · rw [← page_iff positive]
    constructor
    · rintro ⟨paged, made, offset, limit, starts, ends, inside⟩
      rw [apply_page read whole numbered] at made
      cases made
      cases starts
      cases whole.symm.trans ends
      exact inside
    · intro inside
      exact ⟨_, apply_page read whole numbered, _, _, rfl, whole, inside⟩

end Paging

namespace Refresh

theorem setWindow_eq (refresh : Refresh) : setWindow refresh =
    if refresh.paged then (.error .pagingApplied, refresh)
    else
      match Paging.apply refresh.request refresh.config refresh.query with
      | .ok query => (.ok (), { refresh with query := query, paged := true })
      | .error failure => (.error failure, refresh) := by
  have read : (get : Action Refresh Refresh) refresh = (.ok refresh, refresh) := rfl
  rw [setWindow, Action.bind_eq read]
  cases refresh.paged with
  | true => rfl
  | false => cases Paging.apply refresh.request refresh.config refresh.query <;> rfl

/-- A call that sets the window: the refresh before it, how it ends, and the refresh after it. -/
structure Turn where
  before : Refresh
  outcome : Except Error Unit
  after : Refresh

def Turn.of (refresh : Refresh) : Turn := ⟨refresh, (setWindow refresh).1, (setWindow refresh).2⟩

/-- The calls that set the window, one after each piece of work on the query; none is kept back by one that fails. -/
def turns : List (Query → Query) → Refresh → List Turn
  | [], _ => []
  | work :: rest, refresh =>
    let turn := Turn.of { refresh with query := work refresh.query }
    turn :: turns rest turn.after

variable {refresh : Refresh} {works : List (Query → Query)} {turn : Turn} {earlier later : List Turn}

theorem setWindow_kept (refresh : Refresh) : (setWindow refresh).2.request = refresh.request ∧
    (setWindow refresh).2.config = refresh.config := by
  rw [setWindow_eq]
  split
  · exact ⟨rfl, rfl⟩
  · split <;> exact ⟨rfl, rfl⟩

theorem setWindow_paged (refresh : Refresh) :
    (setWindow refresh).2.paged = true ↔ refresh.paged = true ∨ (setWindow refresh).1 = .ok () := by
  rw [setWindow_eq]
  cases paged : refresh.paged with
  | true => simp [paged]
  | false =>
    cases Paging.apply refresh.request refresh.config refresh.query with
    | ok query => simp
    | error failure => simp [paged]

/-- Each turn is a call for the page of the request, which stays the same. -/
theorem turn_called (made : turn ∈ turns works refresh) : setWindow turn.before = (turn.outcome, turn.after) ∧
    turn.before.request = refresh.request ∧ turn.before.config = refresh.config := by
  induction works generalizing refresh with
  | nil => cases made
  | cons work rest ih =>
    rcases List.mem_cons.mp made with rfl | among
    · exact ⟨rfl, rfl, rfl⟩
    · obtain ⟨called, request, config⟩ := @ih (Turn.of { refresh with query := work refresh.query }).after among
      obtain ⟨asked, settings⟩ := setWindow_kept { refresh with query := work refresh.query }
      exact ⟨called, request.trans asked, config.trans settings⟩

/-- A turn finds the window set when it was set from the start or by a turn before. -/
theorem turn_paged (made : turns works refresh = earlier ++ turn :: later) :
    turn.before.paged = true ↔ refresh.paged = true ∨ ∃ other ∈ earlier, other.outcome = .ok () := by
  induction works generalizing refresh earlier with
  | nil => cases List.append_ne_nil_of_right_ne_nil earlier (List.cons_ne_nil turn later) made.symm
  | cons work rest ih =>
    cases earlier with
    | nil =>
      cases made
      simp [Turn.of]
    | cons first others =>
      obtain ⟨same, rest⟩ := List.cons.inj made
      have paged := setWindow_paged { refresh with query := work refresh.query }
      simp only [ih rest, List.mem_cons, exists_eq_or_imp, ← or_assoc, ← same]
      exact or_congr_left paged

/-- The windows of the pages of a request tile the rows when its page size is a positive integer: for pages of any
number, a row is on exactly one page, the one behind as many pages as it fills. Whatever is done to the query in
between, calls that set the window are refused with a fault of the request while its page is below one, or, when that is
a number of too many digits, for the number; the first that succeeds sets offset and limit to those of the page, and all
later ones are refused for that. A refused call leaves everything as it is. -/
theorem turns_window {request : Request} {config : Config} {sorting : Sorting} {size : Int}
    (read : request.sorting = .ok sorting) (whole : (Paging.pageSize config sorting).index? = some size)
    (positive : 0 < size) :
    (∀ page, (request.atPage page).sorting = .ok { sorting with page := page }) ∧
    (∀ row, 0 ≤ row → ∀ query, (request.ShowsRow config query row ↔ sorting.page = row / size + 1) ∧
      ∀ page, (request.atPage page).ShowsRow config query row ↔ page = row / size + 1) ∧
    ∀ refresh works earlier turn later, refresh.request = request → refresh.config = config → refresh.paged = false →
      turns works refresh = earlier ++ turn :: later →
      ((∃ other ∈ earlier, other.outcome = .ok ()) → turn.outcome = .error .pagingApplied) ∧
      ((∀ other ∈ earlier, other.outcome ≠ .ok ()) →
        (1 ≤ sorting.page → turn.outcome = .ok ()) ∧
        (sorting.page < 1 → turn.outcome = .error (Paging.refusal sorting.page))) ∧
      (turn.outcome = .ok () → turn.after = { turn.before with
        query := { turn.before.query with
          offset := .int ((sorting.page - 1) * size), limit := Paging.pageSize config sorting },
        paged := true }) ∧
      ∀ failure, turn.outcome = .error failure → turn.after = turn.before := by
  refine ⟨Request.sorting_atPage read, fun row counted query => ⟨?_, fun page => ?_⟩, ?_⟩
  · exact Paging.showsRow_iff read whole positive counted
  · exact Paging.showsRow_iff (Request.sorting_atPage read page) whole positive counted
  intro refresh works earlier turn later asked settings unpaged made
  have among : turn ∈ turns works refresh := by simp [made]
  obtain ⟨called, own, same⟩ := turn_called among
  obtain rfl : turn.before.request = request := own.trans asked
  obtain rfl : turn.before.config = config := same.trans settings
  have marked := turn_paged made
  rw [unpaged] at marked
  rw [setWindow_eq] at called
  by_cases done : ∃ other ∈ earlier, other.outcome = .ok ()
  · rw [if_pos (marked.mpr (.inr done))] at called
    obtain ⟨refused, kept⟩ := Prod.mk.inj called
    rw [← refused, ← kept]
    exact ⟨fun _ => rfl, fun none => absurd done (by simpa using none), nofun, fun _ _ => rfl⟩
  · have free : turn.before.paged ≠ true := fun paged => (marked.mp paged).elim nofun done
    rw [if_neg free] at called
    refine ⟨fun found => absurd found done, ?_⟩
    rcases Int.lt_or_le sorting.page 1 with below | numbered
    · rw [Paging.apply_refused read below] at called
      obtain ⟨refused, kept⟩ := Prod.mk.inj called
      rw [← refused, ← kept]
      exact ⟨fun _ => ⟨fun numbered => absurd below (Int.not_lt.mpr numbered), fun _ => rfl⟩, nofun, fun _ _ => rfl⟩
    · rw [Paging.apply_page read whole numbered] at called
      obtain ⟨through, set⟩ := Prod.mk.inj called
      rw [← through, ← set]
      exact ⟨fun _ => ⟨fun _ => rfl, fun below => absurd below (Int.not_lt.mpr numbered)⟩, fun _ => rfl, nofun⟩

/-- Pages of ten rows, of which the third is asked for. -/
private def third : Refresh where
  request := ⟨.object [("sort", .object [("page", .int 3), ("rowsPerPage", .int 0)])]⟩
  config := {}
  query := .ofSelect { Select.empty with source := some (.table ⟨"posts", none⟩) } .sqlite false
  registry := ⟨[]⟩
  paths := []

theorem turns_window_third : third.request.sorting = .ok ⟨"", false, 3, 0⟩ ∧
    (Paging.pageSize third.config ⟨"", false, 3, 0⟩).index? = some 10 ∧ (0 : Int) < 10 ∧
    (∀ page, (third.request.atPage page).ShowsRow third.config third.query 25 ↔ page = 3) ∧
    ∃ first second, turns [id, id] third = [first, second] ∧ first.outcome = .ok () ∧
      first.after.query.offset.index? = some 20 ∧ second.outcome = .error .pagingApplied ∧
      second.after = second.before := by
  have positive : (0 : Int) < 10 := by decide
  have read : third.request.sorting = .ok ⟨"", false, 3, 0⟩ := rfl
  have whole : (Paging.pageSize third.config ⟨"", false, 3, 0⟩).index? = some 10 := rfl
  obtain ⟨_, tiles, turned⟩ := turns_window read whole positive
  refine ⟨read, whole, positive, (tiles 25 (by decide) _).2, _, _, rfl, ?_⟩
  obtain ⟨_, through, set, _⟩ := turned third [id, id] [] _ [_] rfl rfl rfl rfl
  have done := (through (by simp)).1 (by decide)
  obtain ⟨again, _, _, kept⟩ := turned third [id, id] [_] _ [] rfl rfl rfl rfl
  have refused := again ⟨_, .head _, done⟩
  exact ⟨done, by rw [set done]; rfl, refused, kept _ refused⟩

end Refresh

end DataGrid
