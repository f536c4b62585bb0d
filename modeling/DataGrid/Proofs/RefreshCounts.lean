import DataGrid.Proofs.CountStatement
import DataGrid.Proofs.UntouchedPasses

/-! What a whole refresh counts. The rows of the base are counted first and those that are left after filtering once
more, unless no filter took part; then the page is fetched, and nothing else is sent. -/

namespace DataGrid

open Sql

namespace Database

/-- The number that an answer stands for, zero when it does not count as present. -/
def number (answer : Value) : Except Error Int := if answer.truthy then answer.toInteger else .ok 0

/-- The database after it answered a statement with a single value. -/
def asked (database : Database) (statement : Select) : Database :=
  { database with scalars := database.scalars.drop 1, sent := database.sent ++ [statement] }

/-- The database after it answered a statement with rows. -/
def fetched (database : Database) (statement : Select) : Database :=
  { database with pages := database.pages.drop 1, sent := database.sent ++ [statement] }

end Database

namespace Query

/-- A statement that counts the rows of a query: it wraps the statement of the query, with its select list or with one
constant in place of it. -/
structure Counts (query : Query) (statement counted : Select) : Prop where
  select : query.select = .ok statement
  count : query.countSelect = .ok counted
  wraps : counted = statement.counting ∨ counted = { statement with items := [.rowMark] }.counting

theorem counts_of_ok {query : Query} {counted : Select} (returned : query.countSelect = .ok counted) :
    ∃ statement, query.Counts statement counted := by
  obtain ⟨statement, made, _⟩ := Except.bind_ok returned
  obtain ⟨kept, _, _, wrapped⟩ := countSelect_ok made returned
  cases kept with
  | true => exact ⟨statement, made, returned, .inl wrapped⟩
  | false => exact ⟨statement, made, returned, .inr wrapped⟩

end Query

namespace Refresh

variable {before after : Refresh}

def sent (refresh : Refresh) : List Select := (refresh.database.map Database.sent).getD []

theorem count_ok {number : Int} (ran : count before = (.ok number, after)) :
    ∃ database counted, before.database = some database ∧ before.query.countSelect = .ok counted ∧
      Database.number (database.scalars.headD .null) = .ok number ∧
      after = { before with database := some (database.asked counted) } := by
  obtain ⟨_, _, read, ran⟩ := Action.bind_ok ran
  cases read
  obtain ⟨counted, _, made, ran⟩ := Action.bind_ok ran
  obtain ⟨returned, rfl⟩ := Action.lift_ok made
  obtain ⟨answer, middle, sent, ran⟩ := Action.bind_ok ran
  obtain ⟨database, scalar, rfl⟩ := Action.on_ok sent
  cases bound : before.database with
  | none =>
    rw [bound] at scalar
    cases scalar
  | some database =>
    rw [bound] at scalar
    cases scalar
    refine ⟨database, counted, rfl, returned, ?_⟩
    split at ran
    case isTrue present =>
      obtain ⟨read, rfl⟩ := Action.lift_ok ran
      exact ⟨by rw [Database.number, if_pos present, read], rfl⟩
    case isFalse absent =>
      cases ran
      exact ⟨by rw [Database.number, if_neg absent], rfl⟩

theorem rows_ok {rows : List Row} (ran : Refresh.rows before = (.ok rows, after)) :
    ∃ database statement, before.database = some database ∧ before.query.select = .ok statement ∧
      after = { before with database := some (database.fetched statement) } := by
  obtain ⟨_, _, read, ran⟩ := Action.bind_ok ran
  cases read
  obtain ⟨statement, _, made, ran⟩ := Action.bind_ok ran
  obtain ⟨returned, rfl⟩ := Action.lift_ok made
  obtain ⟨answer, middle, sent, ran⟩ := Action.bind_ok ran
  obtain ⟨_, rfl⟩ := Action.lift_ok ran
  obtain ⟨database, fetched, rfl⟩ := Action.on_ok sent
  cases bound : before.database with
  | none =>
    rw [bound] at fetched
    cases fetched
  | some database =>
    rw [bound] at fetched
    cases fetched
    exact ⟨database, statement, rfl, returned, rfl⟩

theorem totalCount_counts {total : Int} (uncounted : before.total = none)
    (ran : totalCount before = (.ok total, after)) :
    ∃ counted, count before = (.ok total, counted) ∧ after = { counted with total := some total } := by
  obtain ⟨_, _, read, ran⟩ := Action.bind_ok ran
  cases read
  simp only [uncounted] at ran
  obtain ⟨total, counted, asked, ran⟩ := Action.bind_ok ran
  obtain ⟨_, _, stored, ran⟩ := Action.bind_ok ran
  cases stored
  cases ran
  exact ⟨counted, asked, rfl⟩

theorem totalCount_known {total : Int} (known : before.total = some total) :
    totalCount before = (.ok total, before) := by
  have read : (get : Action Refresh Refresh) before = (.ok before, before) := rfl
  rw [totalCount, Action.bind_eq read, known]
  rfl

/-- The parts of a refresh that comes through: the count, the passes unless nothing is there, and the fetch. -/
theorem run_ok {answer : Answer} (ran : run before = (.ok answer, after)) :
    ∃ counted ready rows, totalCount before = (.ok answer.total, counted) ∧
      (answer.total = 0 ∧ ready = { counted with filtered := some 0 } ∨
        answer.total ≠ 0 ∧ ∃ filtered ordered, filterRows counted = (.ok (), filtered) ∧
          orderRows filtered = (.ok (), ordered) ∧ pageIfAsked ordered = (.ok (), ready)) ∧
      answer.filtered = ready.filtered ∧ Refresh.rows ready = (.ok rows, after) := by
  obtain ⟨_, _, read, ran⟩ := Action.bind_ok ran
  cases read
  obtain ⟨_, _, checked, ran⟩ := Action.bind_ok ran
  obtain ⟨_, rfl⟩ := Action.lift_ok checked
  obtain ⟨total, counted, totalled, ran⟩ := Action.bind_ok ran
  -- What comes after the passes is the same on both ways.
  have last {ready : Refresh} (ended : (do
      let draw ← liftM (draw before.request)
      let filtered := (← get).filtered
      return { draw := draw, total := total, filtered := filtered, rows := ← Refresh.rows } : Action Refresh Answer)
        ready = (.ok answer, after)) :
      ∃ rows, answer.total = total ∧ answer.filtered = ready.filtered ∧ Refresh.rows ready = (.ok rows, after) := by
    obtain ⟨_, _, drawn, ended⟩ := Action.bind_ok ended
    obtain ⟨_, rfl⟩ := Action.lift_ok drawn
    obtain ⟨_, _, read, ended⟩ := Action.bind_ok ended
    cases read
    obtain ⟨rows, _, fetched, ended⟩ := Action.bind_ok ended
    cases ended
    exact ⟨rows, rfl, rfl, fetched⟩
  split at ran
  case isTrue found =>
    obtain ⟨_, filtered, filters, ran⟩ := Action.bind_ok ran
    obtain ⟨_, ordered, orders, ran⟩ := Action.bind_ok ran
    obtain ⟨_, ready, paged, ran⟩ := Action.bind_ok ran
    obtain ⟨rows, rfl, same, fetched⟩ := last ran
    exact ⟨counted, ready, rows, totalled, .inr ⟨found, filtered, ordered, filters, orders, paged⟩, same, fetched⟩
  case isFalse empty =>
    obtain ⟨_, ready, kept, ran⟩ := Action.bind_ok ran
    cases kept
    obtain ⟨rows, rfl, same, fetched⟩ := last ran
    exact ⟨counted, _, rows, totalled, .inl ⟨not_not.mp empty, rfl⟩, same, fetched⟩

/-- A refresh that no pass was run on: its query stands for the base, and nothing is filtered or counted yet. -/
structure Fresh (refresh : Refresh) (base : Select) : Prop where
  query : ∃ dialect oracle, refresh.query = .ofSelect base dialect oracle
  unfiltered : refresh.applied = false
  uncounted : refresh.total = none

theorem Fresh.bare {base : Select} (fresh : before.Fresh base) : before.query.Bare base := by
  obtain ⟨dialect, oracle, same⟩ := fresh.query
  exact same ▸ Query.bare_ofSelect base dialect oracle

/-- The count of the rows that are left: one more statement if a filter took part, else the count of all rows. -/
theorem countFiltered_ok {total : Int} {result : Unit} (known : before.total = some total)
    (ran : countFiltered before = (.ok result, after)) :
    (before.applied = false ∧ after = { before with filtered := some total }) ∨
      before.applied = true ∧ ∃ filtered counted, count before = (.ok filtered, counted) ∧
        after = { counted with filtered := some filtered } := by
  obtain ⟨_, _, read, ran⟩ := Action.bind_ok ran
  cases read
  split at ran
  case isTrue marked =>
    obtain ⟨filtered, counted, found, ran⟩ := Action.bind_ok ran
    cases ran
    exact .inr ⟨marked, filtered, counted, found, rfl⟩
  case isFalse unmarked =>
    obtain ⟨filtered, counted, found, ran⟩ := Action.bind_ok ran
    cases ran
    cases (totalCount_known known).symm.trans found
    exact .inl ⟨Bool.eq_false_iff.mpr unmarked, rfl⟩

/-- The course of a refresh that comes through: what is counted, which passes are run, and what is sent. -/
theorem run_course {base : Select} {answer : Answer} (fresh : before.Fresh base)
    (ran : run before = (.ok answer, after)) :
    ∃ database counted fetched ready, before.database = some database ∧ before.query.countSelect = .ok counted ∧
      Database.number (database.scalars.headD .null) = .ok answer.total ∧ ready.query.select = .ok fetched ∧
      after.query = ready.query ∧
      (answer.total = 0 ∧ answer.filtered = some 0 ∧ ready.query = before.query ∧
          after.sent = database.sent ++ [counted, fetched] ∨
        answer.total ≠ 0 ∧ ∃ passed left ordered,
          let known := { before with total := some answer.total, database := some (database.asked counted) }
          filterPasses known = (.ok (), passed) ∧ filterRows known = (.ok (), left) ∧ left.query = passed.query ∧
          orderRows left = (.ok (), ordered) ∧ pageIfAsked ordered = (.ok (), ready) ∧
          (passed.applied = false ∧ Untouched known passed ∧ answer.filtered = some answer.total ∧
              after.sent = database.sent ++ [counted, fetched] ∨
            passed.applied = true ∧ ∃ again filtered, passed.query.countSelect = .ok again ∧
              Database.number ((database.scalars.drop 1).headD .null) = .ok filtered ∧
              answer.filtered = some filtered ∧ after.sent = database.sent ++ [counted, again, fetched])) := by
  obtain ⟨known, ready, rows, totalled, passes, filtered, fetches⟩ := run_ok ran
  obtain ⟨_, asked, rfl⟩ := totalCount_counts fresh.uncounted totalled
  obtain ⟨database, counted, bound, returned, number, rfl⟩ := count_ok asked
  obtain ⟨last, fetched, held, selected, rfl⟩ := rows_ok fetches
  refine ⟨database, counted, fetched, ready, bound, returned, number, selected, rfl, ?_⟩
  obtain ⟨empty, rfl⟩ | ⟨found, left, ordered, filters, orders, paged⟩ := passes
  · cases held
    exact .inl ⟨empty, filtered, rfl, by simp [sent, Database.fetched, Database.asked]⟩
  · have passes := filters
    rw [filterRows_passes] at passes
    obtain ⟨_, passed, through, rest⟩ := Action.bind_ok passes
    have known := filterPasses_counts.after (.refl _) through
    have kept : SameCounts left ready :=
      (orderRows_counts.after (.refl _) orders).trans (pageIfAsked_counts.after (.refl _) paged)
    rw [kept.filtered] at filtered
    rw [kept.database] at held
    have bound' : passed.database = some (database.asked counted) := known.database
    obtain ⟨unmarked, rfl⟩ | ⟨marked, again, recounted, recount, rfl⟩ := countFiltered_ok known.total rest
    · obtain rfl := Option.some.inj (bound'.symm.trans held)
      have untouched := filterPasses_untouched (by exact fresh.bare.formed) through unmarked
      refine .inr ⟨found, passed, _, ordered, through, filters, rfl, orders, paged, .inl ⟨unmarked, untouched, filtered, ?_⟩⟩
      simp [sent, Database.fetched, Database.asked]
    · obtain ⟨_, counted', bound'', returned', number', rfl⟩ := count_ok recount
      obtain rfl := Option.some.inj (bound'.symm.trans bound'')
      obtain rfl := Option.some.inj held
      refine .inr ⟨found, passed, _, ordered, through, filters, rfl, orders, paged, .inr ⟨marked, counted', again, ?_⟩⟩
      exact ⟨returned', number', filtered, by simp [sent, Database.fetched, Database.asked]⟩

/-- What a refresh sends and what it answers. -/
theorem run_counts {base : Select} {answer : Answer} (fresh : before.Fresh base)
    (ran : run before = (.ok answer, after)) :
    ∃ database counted fetched, before.database = some database ∧ before.query.Counts base counted ∧
      Database.number (database.scalars.headD .null) = .ok answer.total ∧ after.query.select = .ok fetched ∧
      (answer.total = 0 → answer.filtered = some 0 ∧ after.query = before.query ∧
        after.sent = database.sent ++ [counted, fetched]) ∧
      (answer.total ≠ 0 → ∃ passed,
        filterPasses { before with total := some answer.total, database := some (database.asked counted) } =
          (.ok (), passed) ∧
        (passed.applied = false → passed.query.select = .ok base ∧ passed.query.adapter = before.query.adapter ∧
          answer.filtered = some answer.total ∧ after.sent = database.sent ++ [counted, fetched]) ∧
        (passed.applied = true → ∃ statement again filtered, passed.query.Counts statement again ∧
          Database.number ((database.scalars.drop 1).headD .null) = .ok filtered ∧
          answer.filtered = some filtered ∧ after.sent = database.sent ++ [counted, again, fetched])) := by
  obtain ⟨database, counted, fetched, ready, bound, returned, number, selected, same, course⟩ := run_course fresh ran
  obtain ⟨statement, counts⟩ := Query.counts_of_ok returned
  obtain rfl : base = statement := Except.ok.inj (fresh.bare.select.symm.trans counts.select)
  refine ⟨database, counted, fetched, bound, counts, number, same ▸ selected, fun none => ?_, fun found => ?_⟩
  · obtain ⟨_, filtered, unchanged, sent⟩ | ⟨found, _⟩ := course
    · exact ⟨filtered, same.trans unchanged, sent⟩
    · exact (found none).elim
  · obtain ⟨none, _⟩ | ⟨_, passed, _, _, through, _, _, _, _, counting⟩ := course
    · exact (found none).elim
    refine ⟨passed, through, fun unmarked => ?_, fun marked => ?_⟩
    · obtain ⟨_, untouched, filtered, sent⟩ | ⟨marked, _⟩ := counting
      · exact ⟨(untouched.bare (by exact fresh.bare)).select, by rw [untouched.rest], filtered, sent⟩
      · cases marked.symm.trans unmarked
    · obtain ⟨unmarked, _⟩ | ⟨_, again, filtered, returned', number', recounted, sent⟩ := counting
      · cases marked.symm.trans unmarked
      · obtain ⟨statement, counts'⟩ := Query.counts_of_ok returned'
        exact ⟨statement, again, filtered, counts', number', recounted, sent⟩

private def shelf : Select := { Select.empty with source := some (.table ⟨"t", none⟩) }

/-- A search over one column, which takes part or not, in five rows of which two are found. -/
private def lookup (searchable : Bool) : Refresh where
  request := ⟨.object [("draw", .int 1), ("search", .object [("value", .text "x")]),
    ("columns", .list [.object [("data", .text "a"), ("searchable", .bool searchable)]])]⟩
  config := {}
  query := Query.ofSelect shelf .sqlite false
  registry := {}
  paths := PathSet.expand []
  database := some ⟨[.int 5, .int 2], [], []⟩

private theorem lookup_fresh (searchable : Bool) : (lookup searchable).Fresh shelf := ⟨⟨_, _, rfl⟩, rfl, rfl⟩

private theorem lookup_answers (searchable : Bool) :
    ∃ answer after, run (lookup searchable) = (.ok answer, after) ∧ answer.total = 5 ∧
      answer.filtered = some (if searchable then 2 else 5) := by
  have answers : (run (lookup searchable)).1.map (fun answer => (answer.total, answer.filtered)) =
      .ok (5, some (if searchable then 2 else 5)) := by
    cases searchable <;> decide +kernel
  cases ran : run (lookup searchable) with
  | mk outcome after =>
    rw [ran] at answers
    obtain ⟨answer, rfl, same⟩ := Except.map_ok answers
    obtain ⟨total, filtered⟩ := Prod.mk.inj same
    exact ⟨answer, after, rfl, total.symm, filtered.symm⟩

/-- The rows are counted once more only where the column takes part. -/
theorem run_counts_lookup :
    (∃ answer after counted fetched, run (lookup false) = (.ok answer, after) ∧ answer.filtered = some answer.total ∧
      after.sent = [counted, fetched]) ∧
    (∃ answer after counted again fetched, run (lookup true) = (.ok answer, after) ∧ answer.filtered = some 2 ∧
      after.sent = [counted, again, fetched]) := by
  constructor
  · obtain ⟨answer, after, ran, total, filtered⟩ := lookup_answers false
    obtain ⟨database, counted, fetched, bound, _, _, _, _, found⟩ := run_counts (lookup_fresh false) ran
    cases bound
    obtain ⟨passed, _, spared, taken⟩ := found (by rw [total]; decide)
    cases mark : passed.applied with
    | false =>
      obtain ⟨_, _, same, sent⟩ := spared mark
      exact ⟨answer, after, counted, fetched, ran, same, sent⟩
    | true =>
      obtain ⟨_, _, number, _, read, same, _⟩ := taken mark
      cases read
      cases filtered.symm.trans same
  · obtain ⟨answer, after, ran, total, filtered⟩ := lookup_answers true
    obtain ⟨database, counted, fetched, bound, _, _, _, _, found⟩ := run_counts (lookup_fresh true) ran
    cases bound
    obtain ⟨passed, _, spared, taken⟩ := found (by rw [total]; decide)
    cases mark : passed.applied with
    | false =>
      obtain ⟨_, _, same, _⟩ := spared mark
      cases filtered.symm.trans (same.trans (congrArg some total))
    | true =>
      obtain ⟨_, again, _, _, _, _, sent⟩ := taken mark
      exact ⟨answer, after, counted, again, fetched, ran, filtered, sent⟩

end Refresh

end DataGrid
