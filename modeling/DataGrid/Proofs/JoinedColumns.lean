import DataGrid.Proofs.JoinRuns

/-! What joining along a path puts into the select list: a column for every relation with a pivot table, taken from the
table to which that relation leads, and each time anew. Joins are recorded, so that repeating a call adds none. -/

namespace DataGrid

open Sql

/-- Whether related rows are reached over a pivot table. -/
def Relation.isPivoted : Relation → Bool
  | belongsToMany .. => true
  | _ => false

namespace Query

def columnItem (adapter : Adapter) (column : String) : Option Item := some (.text (adapter.quoteIdentifier column))

/-- The entries that come into the select list along some relations. -/
def pathItems (adapter : Adapter) (column : String) (relations : List Relation) : List (Option Item) :=
  (relations.filter Relation.isPivoted).map fun relation => columnItem adapter (relation.table ++ "." ++ column)

theorem columnItem_inj {adapter : Adapter} (separates : adapter.dialect.Separates) {table other column : String} :
    columnItem adapter (table ++ "." ++ column) = columnItem adapter (other ++ "." ++ column) ↔ table = other := by
  refine ⟨fun same => ?_, fun same => same ▸ rfl⟩
  have written : adapter.dialect.identifier (table ++ "." ++ column) =
      adapter.dialect.identifier (other ++ "." ++ column) :=
    Item.text.inj (Option.some.inj same)
  have named := congrArg String.toList (Dialect.identifier_injective separates written)
  simp only [String.toList_append, List.append_assoc] at named
  exact String.toList_injective (List.append_cancel_right named)

variable {query : Query}

theorem leftJoin_items (query : Query) (target : TableName) (on : Cond) :
    (query.leftJoin target on).2.items = query.items := by
  unfold leftJoin
  split <;> rfl

theorem leftJoin_adapter (query : Query) (target : TableName) (on : Cond) :
    (query.leftJoin target on).2.adapter = query.adapter := (leftJoin_alike query target on).adapter

theorem joinRelation_items (query : Query) (column : String) (relation : Relation) :
    (query.joinRelation column relation).items = query.items ++ pathItems query.adapter column [relation] := by
  cases relation with
  | belongsTo | hasMany | polymorphic => exact (leftJoin_items ..).trans (List.append_nil _).symm
  | belongsToMany table pivot parentKey pivotParentKey pivotRelatedKey relatedKey =>
    rw [joinRelation, leftJoin_items, addColumn, addItem, leftJoin_items, leftJoin_adapter]
    rfl

theorem joinRelations_items (query : Query) (column : String) (relations : List Relation) :
    (relations.foldl (fun query relation => query.joinRelation column relation) query).items =
      query.items ++ pathItems query.adapter column relations := by
  induction relations generalizing query with
  | nil => exact (List.append_nil _).symm
  | cons relation rest ih =>
    rw [List.foldl_cons, ih, joinRelation_items, (joinRelation_alike query column relation).adapter, List.append_assoc]
    congr 1
    rw [pathItems, pathItems, pathItems, ← List.map_append, ← List.filter_append]
    rfl

end Query

theorem JoinRecord.askAll_known {record : JoinRecord} {asked : List Join}
    (known : ∀ join ∈ asked, join.name ∈ record.joined) : record.askAll asked = record := by
  induction asked with
  | nil => rfl
  | cons join rest ih =>
    obtain ⟨first, others⟩ := List.forall_mem_cons.mp known
    have step : record.askAll (join :: rest) = (record.ask join).askAll rest := rfl
    rw [step, ask_known first, ih others]

namespace JoinCall

variable {before after : Query}

/-- The entries that a call adds to the select list. -/
def items (query : Query) : JoinCall → List (Option Item)
  | .table _ _ => []
  | .path registry along column =>
    match registry.walk query.mainTable? along with
    | .ok relations => Query.pathItems query.adapter column relations
    | .error _ => []

theorem run_items (query : Query) (call : JoinCall) : (call.run query).items = query.items ++ call.items query := by
  cases call with
  | table target on => exact (Query.leftJoin_items ..).trans (List.append_nil _).symm
  | path registry along column =>
    rw [run, items]
    cases walked : registry.walk query.mainTable? along with
    | error failure =>
      rw [Query.joinPath_failed walked]
      exact (List.append_nil _).symm
    | ok relations =>
      obtain ⟨name, reached⟩ := Query.joinPath_walked walked column
      rw [reached]
      exact Query.joinRelations_items query column relations

/-- What a call asks for goes by the main table and the database alone. -/
theorem asks_alike (alike : Query.Alike before after) (call : JoinCall) :
    call.asks after = call.asks before ∧ call.items after = call.items before := by
  have main : after.mainTable? = before.mainTable? := by rw [Query.mainTable?, alike.base, Query.mainTable?]
  cases call with
  | table target on => exact ⟨rfl, rfl⟩
  | path registry along column =>
    rw [asks, asks, items, items, main, alike.adapter]
    exact ⟨rfl, rfl⟩

/-- A run of calls adds to the select list what each of them adds. -/
theorem runAll_items (query : Query) (calls : List JoinCall) :
    (runAll query calls).items = query.items ++ calls.flatMap (items query) := by
  induction calls generalizing query with
  | nil => exact (List.append_nil _).symm
  | cons call rest ih =>
    have same : rest.flatMap (items (call.run query)) = rest.flatMap (items query) :=
      List.flatMap_congr fun other _ => (asks_alike (run_alike query call) other).2
    change (runAll (call.run query) rest).items = _
    rw [ih, run_items, same, List.append_assoc, List.flatMap_cons]

/-- A call that is repeated, after whatever calls, joins nothing. -/
theorem run_again (query : Query) (call : JoinCall) (more : List JoinCall) :
    (call.run (runAll (call.run query) more)).record = (runAll (call.run query) more).record := by
  have alike := (run_alike query call).trans (runAll_alike (call.run query) more)
  rw [run_record, (asks_alike alike call).1]
  refine JoinRecord.askAll_known fun join asked => ?_
  have joined : join.name ∈ (call.run query).record.joined := by
    rw [run_record]
    exact JoinRecord.joined_askAll asked
  exact (runAll_extends (call.run query) more).joined.subset joined

/-- Whatever calls came before: one along a path that can be walked adds a column for each relation of the path with a
pivot table, and all of these are the column that the call returns exactly when each such relation leads to the last
table. Repeating the call, after whatever other calls, joins nothing but adds its columns again; it leaves the select
list as it is exactly when there is no pivot table on the path. A path that cannot be walked adds nothing. -/
theorem runAll_columns (query : Query) (separates : query.adapter.dialect.Separates) (calls more : List JoinCall)
    (registry : Registry) (along column : String) :
    let before := runAll query calls
    let call := JoinCall.path registry along column
    let again := runAll (call.run before) more
    before.items = query.items ++ calls.flatMap (items query) ∧
    (∀ failure, registry.walk query.mainTable? along = .error failure → call.run before = before) ∧
    ∀ relations, registry.walk query.mainTable? along = .ok relations → ∃ last joined, relations.getLast? = some last ∧
      before.joinPath registry along column = .ok (last.table ++ "." ++ column, joined) ∧
      joined.items = before.items ++ Query.pathItems query.adapter column relations ∧
      ((∀ item ∈ Query.pathItems query.adapter column relations,
          item = Query.columnItem query.adapter (last.table ++ "." ++ column)) ↔
        ∀ relation ∈ relations, relation.isPivoted = true → relation.table = last.table) ∧
      (call.run again).record = again.record ∧
      (call.run again).items = again.items ++ Query.pathItems query.adapter column relations ∧
      ((call.run again).items = again.items ↔ ∀ relation ∈ relations, relation.isPivoted = false) := by
  intro before call again
  have alike : Query.Alike query before := runAll_alike query calls
  have later : Query.Alike query again := (alike.trans (run_alike before call)).trans (runAll_alike _ more)
  have main : before.mainTable? = query.mainTable? := by rw [Query.mainTable?, alike.base, Query.mainTable?]
  refine ⟨runAll_items query calls, fun failure failed => ?_, fun relations walked => ?_⟩
  · rw [← main] at failed
    rw [run, Query.joinPath_failed failed]
  · obtain ⟨last, ended⟩ :=
      Option.ne_none_iff_exists'.mp (mt List.getLast?_eq_none_iff.mp (Registry.walk_ne_nil walked))
    have added : call.items query = Query.pathItems query.adapter column relations := by rw [items, walked]
    have reached : before.joinPath registry along column = .ok (last.table ++ "." ++ column,
        relations.foldl (fun query relation => query.joinRelation column relation) before) := by
      rw [Query.joinPath, main, walked, Except.ok_bind, ended]
      rfl
    have repeated : (call.run again).items = again.items ++ Query.pathItems query.adapter column relations := by
      rw [run_items, (asks_alike later call).2, added]
    refine ⟨last, _, ended, reached, ?_, ?_, run_again before call more, repeated, ?_⟩
    · rw [Query.joinRelations_items, alike.adapter]
    · simp only [Query.pathItems, List.forall_mem_map, List.mem_filter, and_imp, Query.columnItem_inj separates]
    · rw [repeated, List.append_right_eq_self, Query.pathItems, List.map_eq_nil_iff, List.filter_eq_nil_iff]
      simp only [Bool.not_eq_true]

private def goods : Select := { Select.empty with source := some (.table ⟨"products", none⟩) }

/-- Products with their tags, each of which has a category. -/
private def labels : Registry :=
  ⟨[("products", [("tags", .belongsToMany "tags" "product_tags" "products.id" "product_tags.product_id"
      "product_tags.tag_id" "tags.id")]),
    ("tags", [("category", .belongsTo "categories" "tags.category_id" "categories.id")])]⟩

/-- The column of the category is returned, and one of the tags is added, at every call. -/
theorem runAll_columns_category :
    let start := Query.ofSelect goods .sqlite false
    let call := JoinCall.path labels "tags.category" "title"
    start.adapter.dialect.Separates ∧
      (start.joinPath labels "tags.category" "title").map Prod.fst = .ok "categories.title" ∧
      (call.run start).items = [some (.text "tags.title")] ∧
      (call.run (call.run start)).items = [some (.text "tags.title"), some (.text "tags.title")] ∧
      (call.run (call.run start)).record = (call.run start).record := by
  intro start call
  have separates : start.adapter.dialect.Separates :=
    Dialect.all_separate _ (show Dialect.sqlite ∈ Dialect.all by simp [Dialect.all])
  obtain ⟨_, _, paths⟩ := runAll_columns start separates [] [] labels "tags.category" "title"
  obtain ⟨last, joined, ended, reached, _, _, recorded, again, _⟩ := paths _ rfl
  cases ended
  have added : (call.run start).items = [some (.text "tags.title")] := by decide +kernel
  have twice : (call.run (call.run start)).items = (call.run start).items ++ [some (.text "tags.title")] := again
  rw [added] at twice
  exact ⟨separates, congrArg (Except.map Prod.fst) reached, added, twice, recorded⟩

end JoinCall

end DataGrid
