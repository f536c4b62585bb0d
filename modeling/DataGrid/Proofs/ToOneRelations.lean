import DataGrid.Proofs.WidenedQueries

/-! Relations that lead to one row at most. When every relation of a registry is followed by keys that are unique in the
tables that it brings, what a search and an order join finds one row each, whichever columns a request names. -/

namespace DataGrid

open Sql

variable {Cell : Type}

/-- Whether the relations of a registry are followed by unique keys, to tables other than the main one. -/
structure Registry.ToOne (registry : Registry) (world : World Cell) (main : String) : Prop where
  seek : registry.Each fun table relation => InTurn world.Seeks [table] (relation.joins world.adapter)
  apart : registry.Each fun _ relation => ∀ table ∈ relation.tables, table ≠ main ∧ table ≠ ""

/-- The relations of a path are relations of the registry. -/
theorem Registry.Each.walked {registry : Registry} {holds : String → Relation → Prop} (each : registry.Each holds)
    {table : Option String} {names : List String} {relations : List Relation}
    (walked : registry.walkFrom table names = .ok relations) :
    ∀ relation ∈ relations, ∃ source, holds source relation := by
  induction names generalizing table relations with
  | nil =>
    cases walked
    exact List.forall_mem_nil _
  | cons name rest ih =>
    obtain ⟨relation, others, rfl, found, more⟩ := Registry.walkFrom_cons walked
    refine List.forall_mem_cons.mpr ⟨?_, ih more⟩
    cases table with
    | none => cases found
    | some source => exact ⟨source, each source name relation found⟩

namespace Query

/-- A query over a table whose joins find one row at most each, none of them of that table again. -/
structure JoinsByKey (world : World Cell) (main : TableName) (query : Query) : Prop where
  source : query.base.source = some (.table main)
  adapter : query.adapter = world.adapter
  sound : query.record.Sound (joinedTables query.base)
  seek : InTurn world.Seeks query.base.tables query.joins
  apart : ∀ join ∈ query.joins, join.name ≠ main.shown ∧ join.name ≠ ""

namespace JoinsByKey

variable {world : World Cell} {main : TableName} {query after : Query}

theorem withStore (keyed : query.JoinsByKey world main) (store : Store) :
    JoinsByKey world main { query with store := store } :=
  ⟨keyed.source, keyed.adapter, keyed.sound, keyed.seek, keyed.apart⟩

theorem orderBy (keyed : query.JoinsByKey world main) (term : SortTerm) : (query.orderBy term).JoinsByKey world main :=
  ⟨keyed.source, keyed.adapter, keyed.sound, keyed.seek, keyed.apart⟩

theorem joinPath {registry : Registry} {path column name : String} (keyed : query.JoinsByKey world main)
    (toOne : registry.ToOne world main.shown) (reached : query.joinPath registry path column = .ok (name, after)) :
    after.JoinsByKey world main := by
  have alike := joinPath_alike reached
  obtain ⟨relations, walked, _, record⟩ := joinPath_record reached
  refine ⟨alike.base ▸ keyed.source, alike.adapter.trans keyed.adapter, ?_, ?_, fun join member => ?_⟩
  · rw [record, alike.base]
    exact keyed.sound.askAll _
  · have within : joinedTables query.base ⊆ query.base.tables :=
      List.Subset.trans (List.filter_subset_self _) (List.subset_append_right ..)
    have own : ∀ table ∈ query.mainTable?, table ∈ query.base.tables := fun table member =>
      List.mem_append_left _ (Option.mem_toList.mpr member)
    rw [alike.base]
    exact joinPath_inTurn World.Seeks.mono (keyed.adapter ▸ toOne.seek) keyed.sound within own keyed.seek reached
  · have recorded : join ∈ after.record.joins := member
    rw [record, JoinRecord.mem_askAll] at recorded
    rcases recorded with before | ⟨_, asked⟩
    · exact keyed.apart join before
    · obtain ⟨relation, among, made⟩ := List.mem_flatMap.mp (List.mem_of_find?_eq_some asked)
      obtain ⟨_, apart⟩ := toOne.apart.walked walked relation among
      refine apart join.name ?_
      rw [← relation.joins_names query.adapter]
      exact List.mem_map_of_mem made

/-- No join of such a query brings a table of its base. -/
theorem fresh (keyed : query.JoinsByKey world main) : ∀ join ∈ query.joins, join.name ∉ query.base.tables := by
  intro join member known
  obtain ⟨other, named⟩ := keyed.apart join member
  rw [Select.tables, keyed.source] at known
  rcases List.mem_append.mp known with own | joined
  · exact other (List.mem_singleton.mp own)
  · refine keyed.sound.apart join.name (List.mem_map_of_mem member) (List.mem_filter.mpr ⟨joined, ?_⟩)
    simpa using named

end JoinsByKey

end Query

namespace Refresh

variable {before : Refresh} {base kept final : Select} {world : World Cell} {main : TableName}

/-- Over relations to one row, by columns of their own tables, a search and an order join one row at most each. -/
theorem Stages.joinsOnce (stages : before.Stages kept final)
    (start : ∃ dialect oracle, before.query = .ofSelect base dialect oracle) (unscripted : before.Unscripted)
    (adapter : before.query.adapter = world.adapter) (separates : world.adapter.dialect.Separates)
    (source : base.source = some (.table main)) (toOne : before.registry.ToOne world main.shown)
    (names : base.NamesOnly world.adapter base.tables) (names' : kept.NamesOnly world.adapter kept.tables)
    (distinct : base.distinct = true → base.gathers = false ∧ final.items = base.items) :
    world.JoinsOnce base kept final := by
  obtain ⟨filtered, ordered, filters, orders, made, made'⟩ := stages
  obtain ⟨dialect, oracle, same⟩ := start
  have keyed : before.query.JoinsByKey world main := by
    refine ⟨?_, adapter, ?_, ?_, ?_⟩ <;> rw [same]
    · exact source
    · exact Query.ofSelect_sound base dialect oracle
    · exact InTurn.nil _ _
    · exact List.forall_mem_nil _
  have keyed₁ := ((filterRows_unscripted (fun _ store keyed => keyed.withStore store)
    fun _ _ _ _ _ keyed found => keyed.joinPath toOne found).after ⟨⟨unscripted, rfl⟩, keyed⟩ filters).2
  obtain ⟨settings, searched⟩ := filterRows_widens unscripted filters
  have keyed₂ := ((orderRows_unscripted (fun _ term keyed => keyed.orderBy term)
    fun _ _ _ _ _ keyed found => keyed.joinPath toOne found).after ⟨settings, keyed₁⟩ orders).2
  obtain ⟨sorted, _⟩ := orderRows_widens settings.1 orders
  have own : filtered.query.base = base := by
    rw [searched.base, same]
    rfl
  have own' : ordered.query.base = base := sorted.base.trans own
  obtain ⟨later, more, _⟩ := sorted.joins
  obtain ⟨source₁, joins₁⟩ := Query.select_from made
  obtain ⟨_, joins₂⟩ := Query.select_from made'
  have seek := keyed₂.seek
  have apart := keyed₂.fresh
  have once := keyed₂.sound.once
  rw [own] at source₁ joins₁
  rw [own', more, ← List.append_assoc, ← joins₁] at joins₂
  rw [own', more] at seek apart
  change ((ordered.query.joins).map Join.name).Nodup at once
  rw [more, List.map_append] at once
  have tables : kept.tables = base.tables ++ filtered.query.joins.map Join.name := by
    rw [Select.tables, Select.tables, source₁, joins₁, List.map_append, List.append_assoc]
  refine ⟨?_, ?_, distinct⟩
  · rw [joins₁, List.drop_left]
    exact World.beside_of_keys separates source names (own ▸ keyed₁.seek) (own ▸ keyed₁.fresh)
  · rw [joins₂, List.drop_left]
    refine World.beside_of_keys separates (source₁.trans source) names' (tables ▸ seek.rest) fun join member => ?_
    rw [tables, List.mem_append]
    rintro (known | known)
    · exact apart join (List.mem_append_right _ member) known
    · exact List.disjoint_of_nodup_append once known (List.mem_map_of_mem member)

end Refresh

end DataGrid
