import DataGrid.Search
import DataGrid.Proofs.GlobalSearch
import DataGrid.Proofs.QueryGrowth
import DataGrid.Proofs.UniformGroups

/-! The search by the columns' own keywords. Each column with a keyword appends one entry to the root: a group for
the script of an override, what a named override adds, or the test of the column, for which its path is joined. -/

namespace DataGrid

open Sql

namespace Query

theorem joinRelation_alike (query : Query) (column : String) (relation : Relation) :
    Alike query (query.joinRelation column relation) := by
  cases relation with
  | belongsTo table foreignKey ownerKey => exact leftJoin_alike ..
  | hasMany table foreignKey localKey => exact leftJoin_alike ..
  | polymorphic table foreignKey otherKey morphColumn morphValue => exact leftJoin_alike ..
  | belongsToMany table pivot parentKey pivotParentKey pivotRelatedKey relatedKey =>
    have first := leftJoin_alike query ⟨pivot, none⟩ (joinCondition query.adapter pivotParentKey parentKey none)
    have named : Alike (query.leftJoin ⟨pivot, none⟩ (joinCondition query.adapter pivotParentKey parentKey none)).2
      (Query.addColumn _ (table ++ "." ++ column)) := ⟨rfl, rfl, rfl, rfl⟩
    exact (first.trans named).trans (leftJoin_alike ..)

private theorem joinRelations_alike (query : Query) (column : String) (relations : List Relation) :
    Alike query (relations.foldl (fun query relation => query.joinRelation column relation) query) := by
  induction relations generalizing query with
  | nil => exact .refl _
  | cons relation rest ih => exact (joinRelation_alike query column relation).trans (ih _)

theorem joinPath_alike {query joined : Query} {registry : Registry} {path column name : String}
    (reached : query.joinPath registry path column = .ok (name, joined)) : Alike query joined := by
  obtain ⟨relations, _, same⟩ := Except.bind_ok reached
  cases same
  exact joinRelations_alike query column relations

end Query

namespace Search

variable {search : Search} {before after : Query} {column : Column}

def reachedName (search : Search) (query : Query) (column : Column) : Except Error String :=
  (search.reach query column).map Prod.fst

def ownAddition (search : Search) (query : Query) (column : Column) : Except Error (Junction × PredicateTree) := do
  match search.overrides.lookup column.name with
  | some (.callback script) =>
    return (.and, .group (← GroupStep.additions query.adapter (script column.searchValue)))
  | some (.named override) => override.addition query.adapter column.name column.searchValue false
  | none => return (.and, .cond (← search.ownTest query column (← search.reachedName query column)))

theorem reach_alike {query joined : Query} {name : String} (reached : search.reach query column = .ok (name, joined)) :
    Query.Alike query joined := by
  unfold reach at reached
  split at reached
  · exact Query.joinPath_alike reached
  · cases reached
    exact .refl _

theorem automaticTest_congr (base : after.base = before.base) (adapter : after.adapter = before.adapter)
    (column : Column) (keyword : String) :
    search.automaticTest after column keyword = search.automaticTest before column keyword := by
  cases before
  cases after
  cases base
  cases adapter
  rfl

theorem ownTest_congr (base : after.base = before.base) (adapter : after.adapter = before.adapter)
    (column : Column) (name : String) : search.ownTest after column name = search.ownTest before column name := by
  cases before
  cases after
  cases base
  cases adapter
  rfl

theorem reachedName_congr (base : after.base = before.base) (column : Column) :
    search.reachedName after column = search.reachedName before column := by
  have table : after.mainTable? = before.mainTable? := by rw [Query.mainTable?, Query.mainTable?, base]
  unfold reachedName reach
  split
  · rw [Query.joinPath, Query.joinPath, table]
    cases search.registry.walk before.mainTable? _ <;> rfl
  · rfl

/-- What a column adds depends on the base of the query alone. -/
theorem ownAddition_congr (base : after.base = before.base) (adapter : after.adapter = before.adapter)
    (column : Column) : search.ownAddition after column = search.ownAddition before column := by
  unfold ownAddition
  rw [adapter, reachedName_congr base column]
  simp only [ownTest_congr base adapter]

theorem searchOwn_grows {start final : Searching} {result : Unit} (formed : start.query.Formed)
    (ran : search.searchOwn column start = (.ok result, final)) :
    ∃ entry, search.ownAddition start.query column = .ok entry ∧ start.query.Grows final.query [entry] := by
  obtain ⟨_, _, read, ran⟩ := Action.bind_ok ran
  cases read
  cases found : search.overrides.lookup column.name with
  | some override =>
    cases override with
    | callback script =>
      simp only [found] at ran
      obtain ⟨_, middle, added, ran⟩ := Action.bind_ok ran
      obtain ⟨forest, read, appended⟩ := addScript_appends formed.root added
      cases ran
      refine ⟨(.and, .group forest), ?_, ?_⟩
      · simp only [ownAddition, found, read, Except.ok_bind]
        rfl
      · have grown : middle.query = { start.query with store := middle.query.store } := appended.query
        change start.query.Grows middle.query _
        rw [grown]
        exact Query.grows_of_store appended.store
    | named override =>
      simp only [found] at ran
      obtain ⟨_, middle, applied, ran⟩ := Action.bind_ok ran
      obtain ⟨grown, appended, rfl⟩ := Searching.tryStore_ok applied
      obtain ⟨entry, read, step⟩ := NamedOverride.applyToGroup_appends formed.root appended
      cases ran
      refine ⟨entry, ?_, Query.grows_of_store step⟩
      simp only [ownAddition, found, read]
  | none =>
    simp only [found] at ran
    obtain ⟨⟨name, joined⟩, _, reached, ran⟩ := Action.bind_ok ran
    obtain ⟨done, rfl⟩ := Action.lift_ok reached
    obtain ⟨_, _, moved, ran⟩ := Action.bind_ok ran
    cases moved
    obtain ⟨condition, _, tested, ran⟩ := Action.bind_ok ran
    obtain ⟨made, rfl⟩ := Action.lift_ok tested
    obtain ⟨_, middle, added, ran⟩ := Action.bind_ok ran
    obtain ⟨grown, appended, rfl⟩ := Searching.tryStore_ok added
    cases appended
    cases ran
    have alike := reach_alike done
    refine ⟨(.and, .cond condition), ?_, ?_⟩
    · have named : search.reachedName start.query column = .ok name := by rw [reachedName, done]; rfl
      rw [ownTest_congr alike.base alike.adapter] at made
      simp only [ownAddition, found, named, made, Except.ok_bind]
      rfl
    · refine ⟨alike.base, alike.adapter, alike.root, ?_⟩
      change Store.Appends _ _ (joined.store.add start.query.root .and (.cond condition)) _
      rw [alike.store]
      exact .cond formed.root .and condition

def ownAdditions (search : Search) (query : Query) : Except Error Forest := do
  let columns ← search.request.columns
  (columns.filter fun column => column.searchable && column.searchValue != "").mapM (search.ownAddition query)

/-- Whether every named override joins its condition by `and`. -/
def OverridesJoin (search : Search) (adapter : Adapter) : Prop :=
  ∀ column override, search.overrides.lookup column = some (.named override) →
    ∀ keyword entry, override.addition adapter column keyword false = .ok entry → entry.1 = .and

theorem ownAdditions_and {query : Query} {forest : Forest} (overrides : search.OverridesJoin query.adapter)
    (read : search.ownAdditions query = .ok forest) : Uniform .and forest := by
  obtain ⟨columns, _, read⟩ := Except.bind_ok read
  intro entry member
  obtain ⟨column, _, made⟩ := Except.mapM_mem read entry member
  cases found : search.overrides.lookup column.name with
  | none =>
    simp only [ownAddition, found] at made
    obtain ⟨_, _, made⟩ := Except.bind_ok made
    obtain ⟨_, _, same⟩ := Except.bind_ok made
    cases same
    rfl
  | some override =>
    cases override with
    | callback script =>
      simp only [ownAddition, found] at made
      obtain ⟨_, _, same⟩ := Except.bind_ok made
      cases same
      rfl
    | named override =>
      simp only [ownAddition, found] at made
      exact overrides column.name override found column.searchValue entry made

private theorem searchColumns_grows {columns : List Column} {start final : Searching} {result : PUnit}
    (formed : start.query.Formed) (ran : columns.forM search.searchOwn start = (.ok result, final)) :
    ∃ forest, columns.mapM (search.ownAddition start.query) = .ok forest ∧ start.query.Grows final.query forest := by
  induction columns generalizing start with
  | nil =>
    cases ran
    exact ⟨[], rfl, .refl _⟩
  | cons column rest ih =>
    obtain ⟨_, middle, first, others⟩ := Action.bind_ok ran
    obtain ⟨entry, read, one⟩ := searchOwn_grows formed first
    obtain ⟨forest, more, all⟩ := ih (one.formed formed) others
    have same : search.ownAddition middle.query = search.ownAddition start.query :=
      funext (ownAddition_congr one.base one.adapter)
    rw [same] at more
    refine ⟨entry :: forest, ?_, one.trans formed all⟩
    rw [List.mapM_cons, read, Except.ok_bind, more]
    rfl

theorem runOwn_grows {start final : Searching} {result : PUnit} (formed : start.query.Formed)
    (ran : search.runOwn start = (.ok result, final)) :
    ∃ forest, search.ownAdditions start.query = .ok forest ∧ start.query.Grows final.query forest := by
  obtain ⟨columns, _, listed, ran⟩ := Action.bind_ok ran
  obtain ⟨found, rfl⟩ := Action.lift_ok listed
  obtain ⟨forest, read, grown⟩ := searchColumns_grows formed ran
  refine ⟨forest, ?_, grown⟩
  simp only [ownAdditions, found, Except.ok_bind]
  exact read

end Search

end DataGrid
