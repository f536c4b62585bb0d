import DataGrid.Search
import DataGrid.Proofs.OverrideAdditions

/-! What the search over all columns adds. Each term adds one group to the root, in which every column that takes
part is an alternative. Nothing else of the query changes. -/

namespace DataGrid

open Sql

/-- A step of a search appends a forest to a group, and changes nothing of the query but its groups. -/
structure Searching.Appends (id : Nat) (before after : Searching) (forest : Forest) : Prop where
  query : after.query = { before.query with store := after.query.store }
  store : Store.Appends id before.query.store after.query.store forest

namespace Searching

variable {id : Nat} {before between after : Searching} {first second : Forest}

theorem Appends.refl (id : Nat) (searching : Searching) : Appends id searching searching [] := ⟨rfl, .refl id _⟩

theorem Appends.trans (inside : id < before.query.store.size) (one : Appends id before between first)
    (other : Appends id between after second) : Appends id before after (first ++ second) := by
  refine ⟨?_, one.store.trans inside other.store⟩
  rw [other.query, one.query]

theorem markApplied_appends {result : Unit} (ran : markApplied before = (.ok result, after)) :
    Appends id before after [] := by
  cases ran
  exact ⟨rfl, .refl id _⟩

def withStore (searching : Searching) (store : Store) : Searching :=
  { searching with query := { searching.query with store := store } }

theorem tryStore_ok {change : Store → Except Error Store} {result : Unit}
    (ran : tryStore change before = (.ok result, after)) :
    ∃ grown, change before.query.store = .ok grown ∧ after = before.withStore grown := by
  obtain ⟨_, _, read, ran⟩ := Action.bind_ok ran
  cases read
  obtain ⟨grown, _, changed, ran⟩ := Action.bind_ok ran
  obtain ⟨done, rfl⟩ := Action.lift_ok changed
  cases ran
  exact ⟨grown, done, rfl⟩

theorem onStore_ok {α : Type} {step : Action Store α} {result : α}
    (ran : onStore step before = (.ok result, after)) :
    ∃ grown, step before.query.store = (.ok result, grown) ∧ after = before.withStore grown := by
  obtain ⟨query, inner, rfl⟩ := Action.on_ok ran
  obtain ⟨grown, changed, rfl⟩ := Action.on_ok inner
  exact ⟨grown, changed, rfl⟩

theorem onStore_eq {α : Type} {step : Action Store α} {result : α} {grown : Store}
    (done : step before.query.store = (.ok result, grown)) :
    onStore step before = (.ok result, before.withStore grown) := by
  have same : onStore step before = ((step before.query.store).1, before.withStore (step before.query.store).2) := rfl
  rw [same, done]

end Searching

namespace Search

variable {search : Search} {id : Nat} {before after : Searching} {keyword : String} {column : Column}

theorem addScript_appends {junction : Junction} {script : List GroupStep} {result : Unit}
    (inside : id < before.query.store.size) (ran : addScript id junction script before = (.ok result, after)) :
    ∃ forest, GroupStep.additions before.query.adapter script = .ok forest ∧
      Searching.Appends id before after [(junction, .group forest)] := by
  obtain ⟨scope, opened, fresh, ran⟩ := Action.bind_ok ran
  cases fresh
  obtain ⟨_, _, read, ran⟩ := Action.bind_ok ran
  cases read
  obtain ⟨_, filled, written, ran⟩ := Action.bind_ok ran
  obtain ⟨store, wrote, rfl⟩ := Searching.onStore_ok written
  obtain ⟨grown, added, rfl⟩ := Searching.tryStore_ok ran
  cases added
  have later : before.query.store.size < before.query.store.fresh.2.size := by simp
  obtain ⟨forest, found, appended⟩ := GroupStep.runAll_appends later wrote
  exact ⟨forest, found, rfl, appended.scope inside junction⟩

/-- Whether a column takes part in the search: one with an override unless that is exempt, any other unless it
is kept out. -/
def takes (search : Search) (column : Column) : Bool :=
  match search.overrides.lookup column.name with
  | some (.callback _) => true
  | some (.named override) => !override.searchExempt
  | none => !search.excludes column.name

/-- What a column that takes part asks of a row. -/
def predicate (search : Search) (query : Query) (keyword : String) (column : Column) : Except Error PredicateTree := do
  match search.overrides.lookup column.name with
  | some (.callback script) => return .group (← GroupStep.additions query.adapter (script keyword))
  | some (.named override) => return (← override.addition query.adapter column.name keyword true).2
  | none => return .cond (← search.automaticTest query column keyword)

def alternatives (search : Search) (query : Query) (keyword : String) : Except Error (List PredicateTree) := do
  let columns ← search.request.columns
  ((columns.filter (·.searchable)).filter search.takes).mapM (search.predicate query keyword)

/-- A column is an alternative when it takes part, and changes nothing when it does not. -/
theorem addAlternative_appends {result : Unit} (inside : id < before.query.store.size)
    (ran : search.addAlternative id keyword column before = (.ok result, after)) :
    (search.takes column = false ∧ Searching.Appends id before after []) ∨
      (search.takes column = true ∧ ∃ tree, search.predicate before.query keyword column = .ok tree ∧
        Searching.Appends id before after [(.or, tree)]) := by
  obtain ⟨_, _, read, ran⟩ := Action.bind_ok ran
  cases read
  cases found : search.overrides.lookup column.name with
  | none =>
    simp only [found] at ran
    cases kept : search.excludes column.name with
    | true =>
      simp only [kept] at ran
      cases ran
      exact .inl ⟨by simp [takes, found, kept], .refl id before⟩
    | false =>
      simp only [kept] at ran
      obtain ⟨condition, _, tested, ran⟩ := Action.bind_ok ran
      obtain ⟨done, rfl⟩ := Action.lift_ok tested
      obtain ⟨_, middle, added, ran⟩ := Action.bind_ok ran
      obtain ⟨grown, appended, rfl⟩ := Searching.tryStore_ok added
      cases appended
      refine .inr ⟨by simp [takes, found, kept], .cond condition, ?_, ?_⟩
      · simp only [predicate, found, done, Except.ok_bind]
        rfl
      · have one : Searching.Appends id before (before.withStore (before.query.store.add id .or (.cond condition)))
            [(.or, .cond condition)] := ⟨rfl, .cond inside .or condition⟩
        simpa using one.trans inside (Searching.markApplied_appends ran)
  | some override =>
    cases override with
    | callback script =>
      simp only [found] at ran
      obtain ⟨_, middle, added, ran⟩ := Action.bind_ok ran
      obtain ⟨forest, read, appended⟩ := addScript_appends inside added
      refine .inr ⟨by simp [takes, found], .group forest, ?_, ?_⟩
      · simp only [predicate, found, read, Except.ok_bind]
        rfl
      · simpa using appended.trans inside (Searching.markApplied_appends ran)
    | named override =>
      simp only [found] at ran
      cases exempt : override.searchExempt with
      | true =>
        simp only [exempt] at ran
        cases ran
        exact .inl ⟨by simp [takes, found, exempt], .refl id before⟩
      | false =>
        simp only [exempt] at ran
        obtain ⟨_, middle, applied, ran⟩ := Action.bind_ok ran
        obtain ⟨grown, appended, rfl⟩ := Searching.tryStore_ok applied
        obtain ⟨⟨junction, tree⟩, read, step⟩ := NamedOverride.applyToGroup_appends inside appended
        have same : junction = .or := NamedOverride.addition_or read
        refine .inr ⟨by simp [takes, found, exempt], tree, ?_, ?_⟩
        · simp only [predicate, found, read, Except.ok_bind]
          rfl
        · have one : Searching.Appends id before (before.withStore grown) [(.or, tree)] := ⟨rfl, same ▸ step⟩
          simpa using one.trans inside (Searching.markApplied_appends ran)

theorem addAlternatives_appends {columns : List Column} {result : PUnit} (inside : id < before.query.store.size)
    (ran : columns.forM (search.addAlternative id keyword) before = (.ok result, after)) :
    ∃ trees, (columns.filter search.takes).mapM (search.predicate before.query keyword) = .ok trees ∧
      Searching.Appends id before after (trees.map fun tree => (.or, tree)) := by
  induction columns generalizing before with
  | nil =>
    cases ran
    exact ⟨[], rfl, .refl id _⟩
  | cons column rest ih =>
    obtain ⟨_, middle, first, others⟩ := Action.bind_ok ran
    rcases addAlternative_appends inside first with ⟨skipped, one⟩ | ⟨taken, tree, read, one⟩
    · obtain ⟨trees, found, more⟩ := ih (Nat.lt_of_lt_of_le inside one.store.size) others
      refine ⟨trees, ?_, by simpa using one.trans inside more⟩
      rw [one.query] at found
      rw [List.filter_cons_of_neg (by simp [skipped])]
      exact found
    · obtain ⟨trees, found, more⟩ := ih (Nat.lt_of_lt_of_le inside one.store.size) others
      refine ⟨tree :: trees, ?_, one.trans inside more⟩
      rw [one.query] at found
      rw [List.filter_cons_of_pos taken, List.mapM_cons, read, Except.ok_bind]
      change (do return tree :: (← (rest.filter search.takes).mapM (search.predicate before.query keyword))) = _
      have same : (rest.filter search.takes).mapM (search.predicate before.query keyword) = .ok trees := found
      rw [same]
      rfl

theorem searchAll_appends {result : Unit} (inside : before.query.root < before.query.store.size)
    (ran : search.searchAll keyword before = (.ok result, after)) :
    ∃ trees, search.alternatives before.query keyword = .ok trees ∧
      Searching.Appends before.query.root before after [(.and, .group (trees.map fun tree => (.or, tree)))] := by
  obtain ⟨_, _, read, ran⟩ := Action.bind_ok ran
  cases read
  obtain ⟨inner, _, opened, ran⟩ := Action.bind_ok ran
  obtain ⟨store, nested, rfl⟩ := Searching.onStore_ok opened
  cases nested
  obtain ⟨columns, _, listed, ran⟩ := Action.bind_ok ran
  obtain ⟨found, rfl⟩ := Action.lift_ok listed
  have later : before.query.store.size < (before.query.store.nested before.query.root .and).2.size := by
    simp [Store.nested]
  obtain ⟨trees, asked, appended⟩ := addAlternatives_appends later ran
  refine ⟨trees, ?_, appended.query, appended.store.nested inside .and⟩
  simp only [alternatives, found, Except.ok_bind]
  exact asked

/-- The group of a term: the alternatives that its columns make. -/
def termGroup (trees : List PredicateTree) : Junction × PredicateTree :=
  (.and, .group (trees.map fun tree => (.or, tree)))

private theorem searchTerms_appends {words : List String} {result : PUnit}
    (inside : before.query.root < before.query.store.size)
    (ran : words.forM search.searchAll before = (.ok result, after)) :
    ∃ terms, words.mapM (search.alternatives before.query) = .ok terms ∧
      Searching.Appends before.query.root before after (terms.map termGroup) := by
  induction words generalizing before with
  | nil =>
    cases ran
    exact ⟨[], rfl, .refl _ _⟩
  | cons term rest ih =>
    obtain ⟨_, middle, first, others⟩ := Action.bind_ok ran
    obtain ⟨trees, read, one⟩ := searchAll_appends inside first
    have same : middle.query.root = before.query.root := by rw [one.query]
    obtain ⟨terms, more, all⟩ := ih (same ▸ Nat.lt_of_lt_of_le inside one.store.size) others
    rw [one.query] at more
    have later : rest.mapM (search.alternatives before.query) = .ok terms := more
    refine ⟨trees :: terms, ?_, one.trans inside (same ▸ all)⟩
    rw [List.mapM_cons, read, Except.ok_bind, later]
    rfl

/-- The global search adds one group for each term. -/
theorem runGlobal_appends {result : PUnit} (inside : before.query.root < before.query.store.size)
    (ran : search.runGlobal before = (.ok result, after)) :
    ∃ word terms, search.request.keyword = .ok word ∧
      (search.config.terms word).mapM (search.alternatives before.query) = .ok terms ∧
      Searching.Appends before.query.root before after (terms.map termGroup) := by
  obtain ⟨word, _, asked, ran⟩ := Action.bind_ok ran
  obtain ⟨found, rfl⟩ := Action.lift_ok asked
  obtain ⟨terms, read, appended⟩ := searchTerms_appends inside ran
  exact ⟨word, terms, found, read, appended⟩

end Search

end DataGrid
