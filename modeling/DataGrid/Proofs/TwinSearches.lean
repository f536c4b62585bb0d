import DataGrid.Proofs.TwinColumns

/-! Two runs side by side: the global search and the search by the columns' own keywords. When the columns of two
requests are twins and there are as many search words in both, searches that come through leave twin queries. -/

namespace DataGrid

open Sql

variable {like : Likeness} {start : Query}

namespace Query

variable {first second : Query}

theorem Twin.withStore (twins : Query.Twin like start first second) {store other : Store}
    (stores : Store.Twin like start.dialect store other) :
    Query.Twin like start { first with store := store } { second with store := other } :=
  { twins with store := stores }

theorem Twin.orderBy (twins : Query.Twin like start first second) {term other : SortTerm}
    (terms : SortTerm.Twin like start.dialect term other) :
    Query.Twin like start (first.orderBy term) (second.orderBy other) :=
  { twins with sorts := List.rel_append twins.sorts (.cons terms .nil) }

theorem Twin.leftJoin (twins : Query.Twin like start first second) (target : TableName) (on : Cond) :
    Query.Twin like start (first.leftJoin target on).2 (second.leftJoin target on).2 := by
  have held : first.hasJoin target.shown = second.hasJoin target.shown := by
    rw [Query.hasJoin, Query.hasJoin, twins.joined]
  unfold Query.leftJoin
  rw [held]
  by_cases joined : second.hasJoin target.shown = true
  · rw [if_pos joined, if_pos joined]
    exact twins
  · rw [if_neg joined, if_neg joined]
    exact { twins with
      joins := congrArg (· ++ [⟨true, target, on⟩]) twins.joins
      joined := congrArg (· ++ [target.shown]) twins.joined }

theorem Twin.addItem (twins : Query.Twin like start first second) {item other : Option Item}
    (items : Option.Rel (Item.Twin like start.dialect) item other) :
    Query.Twin like start (first.addItem item) (second.addItem other) :=
  { twins with items := List.rel_append twins.items (.cons items .nil) }

theorem Twin.addColumn (twins : Query.Twin like start first second) {column other : String}
    (columns : Expr.Twin like start.dialect (start.adapter.column column) (start.adapter.column other)) :
    Query.Twin like start (first.addColumn column) (second.addColumn other) := by
  rw [Query.addColumn, Query.addColumn, twins.adapter.1, twins.adapter.2]
  exact twins.addItem (.some (.text columns.written))

/-- A pivot table brings the name of the column into the select list, so this has to be written alike. -/
theorem Twin.joinRelation (twins : Query.Twin like start first second) {column other : String}
    (columns : ∀ table, Expr.Twin like start.dialect (start.adapter.column (table ++ "." ++ column))
      (start.adapter.column (table ++ "." ++ other))) (relation : Relation) :
    Query.Twin like start (first.joinRelation column relation) (second.joinRelation other relation) := by
  cases relation with
  | belongsTo table foreignKey ownerKey =>
    rw [Query.joinRelation, Query.joinRelation, twins.adapter.1, twins.adapter.2]
    exact twins.leftJoin _ _
  | hasMany table foreignKey localKey =>
    rw [Query.joinRelation, Query.joinRelation, twins.adapter.1, twins.adapter.2]
    exact twins.leftJoin _ _
  | polymorphic table foreignKey otherKey morphColumn morphValue =>
    rw [Query.joinRelation, Query.joinRelation, twins.adapter.1, twins.adapter.2]
    exact twins.leftJoin _ _
  | belongsToMany table pivot parentKey pivotParentKey pivotRelatedKey relatedKey =>
    rw [Query.joinRelation, Query.joinRelation, twins.adapter.1, twins.adapter.2]
    exact ((twins.leftJoin ⟨pivot, none⟩ _).addColumn (columns table)).leftJoin ⟨table, none⟩ _

theorem Twin.joinPath (twins : Query.Twin like start first second) {registry : Registry} {path path' : String}
    (same : registry.walk start.mainTable? path = registry.walk start.mainTable? path') {column other : String}
    (columns : ∀ table, Expr.Twin like start.dialect (start.adapter.column (table ++ "." ++ column))
      (start.adapter.column (table ++ "." ++ other)))
    {name name' : String} {joined joined' : Query} (reached : first.joinPath registry path column = .ok (name, joined))
    (reached' : second.joinPath registry path' other = .ok (name', joined')) :
    Query.Twin like start joined joined' ∧ ∃ table, name = table ++ "." ++ column ∧ name' = table ++ "." ++ other := by
  unfold Query.joinPath at reached reached'
  rw [twins.mainTables.1] at reached
  rw [twins.mainTables.2, ← same] at reached'
  obtain ⟨relations, walked, made⟩ := Except.bind_ok reached
  obtain ⟨relations', walked', made'⟩ := Except.bind_ok reached'
  obtain rfl : relations = relations' := Except.ok.inj (walked.symm.trans walked')
  cases made
  cases made'
  refine ⟨?_, _, rfl, rfl⟩
  clear reached reached' walked walked'
  induction relations generalizing first second with
  | nil => exact twins
  | cons relation rest ih => exact ih (twins.joinRelation columns relation)

end Query

/-- Two runs of a search have twin queries. -/
abbrev Searching.Twin (like : Likeness) (start : Query) (first second : Searching) : Prop :=
  Query.Twin like start first.query second.query

namespace Searching

theorem onStore_both {α : Type} {step other : Action Store α}
    (steps : Action.Both (Store.Twin like start.dialect) Eq step other) :
    Action.Both (Twin like start) Eq (onStore step) (onStore other) := by
  have onQuery : Action.Both (Query.Twin like start) Eq (QueryStep.onStore step) (QueryStep.onStore other) := by
    refine Action.Both.on ?_ ?_ steps
    · intro first second twins
      exact twins.store
    · intro first second twins store store' stores
      exact twins.withStore stores
  refine Action.Both.on ?_ ?_ onQuery
  · intro first second twins
    exact twins
  · intro first second _ query query' twins
    exact twins

theorem tryStore_both {change other : Store → Except Error Store}
    (steps : ∀ store store' grown grown', Store.Twin like start.dialect store store' → change store = .ok grown →
      other store' = .ok grown' → Store.Twin like start.dialect grown grown') :
    Action.Both (Twin like start) (fun _ _ => True) (tryStore change) (tryStore other) := by
  intro before before' value value' after after' twins ran ran'
  obtain ⟨grown, made, rfl⟩ := tryStore_ok ran
  obtain ⟨grown', made', rfl⟩ := tryStore_ok ran'
  exact ⟨twins.withStore (steps _ _ _ _ twins.store made made'), trivial⟩

theorem addTo_both (id : GroupId) (junction : Junction) {entry other : Entry}
    (entries : Entry.Twin like start.dialect entry other) :
    Action.Both (Twin like start) (fun _ _ => True) (addTo id junction entry) (addTo id junction other) := by
  apply tryStore_both
  rintro store store' _ _ twins ⟨⟩ ⟨⟩
  exact twins.add id junction entries

theorem markApplied_both : Action.Both (Twin like start) (fun _ _ => True) markApplied markApplied := by
  apply Action.Both.modify
  intro first second twins
  exact twins

end Searching

/-- A named override of a column that does alike to twin stores, whatever the keywords are. -/
def NamedOverride.Alike (like : Likeness) (adapter : Adapter) (column : String) (override : NamedOverride) : Prop :=
  ∀ (id : GroupId) (useOr : Bool) (keyword keyword' : String) (store store' grown grown' : Store),
    Store.Twin like adapter.dialect store store' →
      override.applyToGroup adapter id column keyword useOr store = .ok grown →
        override.applyToGroup adapter id column keyword' useOr store' = .ok grown' →
          Store.Twin like adapter.dialect grown grown'

namespace Search

/-- Two columns that are twins, and that both searches keep out or both search in the same way. -/
structure Paired (like : Likeness) (start : Query) (search other : Search) (first second : Column) : Prop where
  columns : Column.Twin like start.adapter search.paths
    (fun one two => search.registry.walk start.mainTable? one = search.registry.walk start.mainTable? two) first second
  excluded : search.excludes first.name = other.excludes second.name
  overrides : (search.overrides.lookup first.name = none ∧ other.overrides.lookup second.name = none) ∨
    first.name = second.name ∧ ∃ override, NamedOverride.Alike like start.adapter first.name override ∧
      search.overrides.lookup first.name = some (.named override) ∧
      other.overrides.lookup second.name = some (.named override)

/-- Two searches with the same settings, for requests with paired columns and as many search words. -/
structure Twin (like : Likeness) (start : Query) (search other : Search) : Prop where
  config : search.config = other.config
  registry : search.registry = other.registry
  paths : search.paths = other.paths
  columns {first second : List Column} (read : search.request.columns = .ok first)
    (read' : other.request.columns = .ok second) : List.Forall₂ (Paired like start search other) first second
  terms {keyword keyword' : String} (read : search.request.keyword = .ok keyword)
    (read' : other.request.keyword = .ok keyword') :
    (search.config.terms keyword).length = (search.config.terms keyword').length

variable {search other : Search} {first second : Column}

theorem addAlternative_both (searches : Search.Twin like start search other)
    (paired : Paired like start search other first second) (id : GroupId) (keyword keyword' : String) :
    Action.Both (Searching.Twin like start) (fun _ _ => True) (search.addAlternative id keyword first)
      (other.addAlternative id keyword' second) := by
  unfold addAlternative
  refine Action.Both.get.bind ?_
  intro before before' twins
  obtain ⟨one, two⟩ | ⟨same, override, alike, one, two⟩ := paired.overrides
  · simp only [one, two, paired.excluded]
    by_cases kept : other.excludes second.name = true
    · simp only [kept]
      exact .pure trivial
    · simp only [kept]
      have tested : Action.Both (Searching.Twin like start) (Cond.Twin like start.dialect)
          (liftM (search.automaticTest before.query first keyword))
          (liftM (other.automaticTest before'.query second keyword')) := by
        apply Action.Both.lift
        intro test test' made made'
        rw [automaticTest_congr twins.base.1 twins.adapter.1] at made
        rw [automaticTest_congr twins.base.2 twins.adapter.2] at made'
        exact automaticTest_twin searches.config searches.registry searches.paths paired.columns made made'
      refine tested.bind ?_
      intro test test' tests
      exact (Searching.addTo_both id .or (.cond tests)).bind fun _ _ _ => Searching.markApplied_both
  · simp only [one, two, twins.adapter.1, twins.adapter.2]
    by_cases exempt : override.searchExempt = true
    · simp only [exempt]
      exact .pure trivial
    · simp only [exempt]
      refine (Searching.tryStore_both ?_).bind fun _ _ _ => Searching.markApplied_both
      intro store store' grown grown' stores made made'
      rw [← same] at made'
      exact alike id true keyword keyword' store store' grown grown' stores made made'

theorem Paired.filter {first second : List Column} {test : Column → Bool}
    (same : ∀ a b, Paired like start search other a b → test a = test b)
    (columns : List.Forall₂ (Paired like start search other) first second) :
    List.Forall₂ (Paired like start search other) (first.filter test) (second.filter test) := by
  induction columns with
  | nil => exact .nil
  | cons head _ ih =>
    rw [List.filter_cons, List.filter_cons, same _ _ head]
    split
    · exact .cons head ih
    · exact ih

private theorem columns_both (searches : Search.Twin like start search other) :
    Action.Both (Searching.Twin like start) (List.Forall₂ (Paired like start search other))
      (liftM search.request.columns) (liftM other.request.columns) :=
  .lift fun _ _ read read' => searches.columns read read'

theorem searchAll_both (searches : Search.Twin like start search other) (keyword keyword' : String) :
    Action.Both (Searching.Twin like start) (fun _ _ => True) (search.searchAll keyword)
      (other.searchAll keyword') := by
  unfold searchAll
  refine Action.Both.get.bind ?_
  intro before before' twins
  refine Action.Both.bind (Searching.onStore_both ?_) ?_
  · rintro store store' _ _ _ _ stores ⟨⟩ ⟨⟩
    rw [twins.root]
    exact ⟨(stores.nested _ .and).2, (stores.nested before'.query.root .and).1⟩
  rintro id _ rfl
  refine (columns_both searches).bind ?_
  intro first second columns
  have listed : List.Forall₂ (Paired like start search other) (first.filter (·.searchable))
      (second.filter (·.searchable)) :=
    Paired.filter (fun _ _ paired => paired.columns.searchable) columns
  exact .forM listed fun _ _ paired => addAlternative_both searches paired id keyword keyword'

/-- The global search keeps queries twins: each of its groups has the same alternatives. -/
theorem runGlobal_both (searches : Search.Twin like start search other) :
    Action.Both (Searching.Twin like start) (fun _ _ => True) search.runGlobal other.runGlobal := by
  unfold runGlobal
  have words : Action.Both (Searching.Twin like start)
      (fun keyword keyword' => (search.config.terms keyword).length = (search.config.terms keyword').length)
      (liftM search.request.keyword) (liftM other.request.keyword) :=
    .lift fun _ _ read read' => searches.terms read read'
  refine words.bind ?_
  intro keyword keyword' many
  rw [← searches.config]
  have terms : List.Forall₂ (fun _ _ => True) (search.config.terms keyword) (search.config.terms keyword') := by
    rw [List.forall₂_iff_get]
    exact ⟨many, fun _ _ _ => trivial⟩
  exact .forM terms fun _ _ _ => searchAll_both searches _ _

/-- A column is reached along its path in both runs, and written alike there. -/
theorem reach_twin {first second : Column} (searches : Search.Twin like start search other)
    (columns : Column.Twin like start.adapter search.paths
      (fun one two => search.registry.walk start.mainTable? one = search.registry.walk start.mainTable? two) first
      second)
    {before before' joined joined' : Query} (twins : Query.Twin like start before before') {name name' : String}
    (reached : search.reach before first = .ok (name, joined))
    (reached' : other.reach before' second = .ok (name', joined')) :
    Query.Twin like start joined joined' ∧
      Column.WrittenAs like start.adapter first.jsonPath second.jsonPath name name' ∧
      Column.WrittenAs like start.adapter first.jsonPath second.jsonPath (start.qualified name none)
        (start.qualified name' none) := by
  unfold reach at reached reached'
  rw [← searches.registry, ← searches.paths] at reached'
  have split := columns.split
  generalize search.paths.split? first.name = along at reached split
  generalize search.paths.split? second.name = along' at reached' split
  cases split with
  | none =>
    cases reached
    cases reached'
    exact ⟨twins, columns.own.alone, columns.own.qualified start none⟩
  | some placed =>
    obtain ⟨same, placed⟩ := placed
    obtain ⟨both, table, rfl, rfl⟩ := twins.joinPath same (fun table => (placed.within table).names) reached reached'
    rw [start.qualified_within, start.qualified_within]
    exact ⟨both, placed.within table, placed.within table⟩

theorem searchOwn_both (searches : Search.Twin like start search other)
    (paired : Paired like start search other first second) :
    Action.Both (Searching.Twin like start) (fun _ _ => True) (search.searchOwn first) (other.searchOwn second) := by
  unfold searchOwn
  refine Action.Both.get.bind ?_
  intro before before' twins
  obtain ⟨one, two⟩ | ⟨same, override, alike, one, two⟩ := paired.overrides
  · simp only [one, two]
    have reached : Action.Both (Searching.Twin like start)
        (fun a b => Query.Twin like start a.2 b.2 ∧
          Column.WrittenAs like start.adapter first.jsonPath second.jsonPath a.1 b.1 ∧
          Column.WrittenAs like start.adapter first.jsonPath second.jsonPath (start.qualified a.1 none)
            (start.qualified b.1 none))
        (liftM (search.reach before.query first)) (liftM (other.reach before'.query second)) := by
      apply Action.Both.lift
      rintro ⟨name, joined⟩ ⟨name', joined'⟩ done done'
      exact reach_twin searches paired.columns twins done done'
    rw [twins.root]
    refine reached.bind ?_
    rintro ⟨name, joined⟩ ⟨name', joined'⟩ ⟨both, written, qualified⟩
    have moved : Action.Both (Searching.Twin like start) (fun _ _ => True)
        (modify fun searching => { searching with query := joined })
        (modify fun searching => { searching with query := joined' }) := by
      apply Action.Both.modify
      intro _ _ _
      exact both
    refine moved.bind fun _ _ _ => ?_
    have tested : Action.Both (Searching.Twin like start) (Cond.Twin like start.dialect)
        (liftM (search.ownTest joined first name)) (liftM (other.ownTest joined' second name')) := by
      apply Action.Both.lift
      intro test test' made made'
      rw [ownTest_congr both.base.1 both.adapter.1] at made
      rw [ownTest_congr both.base.2 both.adapter.2] at made'
      exact ownTest_twin searches.config paired.columns written qualified made made'
    refine tested.bind fun _ _ tests => ?_
    exact (Searching.addTo_both _ .and (.cond tests)).bind fun _ _ _ => Searching.markApplied_both
  · simp only [one, two, twins.adapter.1, twins.adapter.2, twins.root]
    refine (Searching.tryStore_both ?_).bind fun _ _ _ => Searching.markApplied_both
    intro store store' grown grown' stores made made'
    rw [← same] at made'
    exact alike _ false _ _ store store' grown grown' stores made made'

/-- So does the search by the columns' own keywords, which joins the same tables. -/
theorem runOwn_both (searches : Search.Twin like start search other) :
    Action.Both (Searching.Twin like start) (fun _ _ => True) search.runOwn other.runOwn := by
  unfold runOwn
  refine (columns_both searches).bind ?_
  intro first second columns
  have sought : List.Forall₂ (Paired like start search other)
      (first.filter fun column => column.searchable && column.searchValue != "")
      (second.filter fun column => column.searchable && column.searchValue != "") := by
    refine Paired.filter ?_ columns
    intro a b paired
    rw [paired.columns.searchable, paired.columns.sought]
  exact .forM sought fun _ _ paired => searchOwn_both searches paired

end Search

end DataGrid
