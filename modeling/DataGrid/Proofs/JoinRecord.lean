import DataGrid.Proofs.ColumnSearch

/-! What a query records of its joins. A join is added when no table of its name is recorded, and then the name is;
joining along a path asks for the joins of its relations one after the other. So the joins of a query are those that
were asked for first under their names. -/

namespace DataGrid

open Sql

def Sql.Join.name (join : Join) : String := join.target.shown

/-- The tables that are recorded as joined, and the joins that were added. -/
structure JoinRecord where
  joined : List String
  joins : List Join

namespace JoinRecord

/-- Adds a join, unless a table of its name is joined already. -/
def ask (record : JoinRecord) (join : Join) : JoinRecord :=
  if record.joined.contains join.name then record else ⟨record.joined ++ [join.name], record.joins ++ [join]⟩

def askAll (record : JoinRecord) (asked : List Join) : JoinRecord := asked.foldl ask record

variable {record : JoinRecord} {join : Join} {asked : List Join}

theorem ask_known (known : join.name ∈ record.joined) : record.ask join = record := by
  rw [ask, if_pos (List.contains_iff_mem.mpr known)]

theorem ask_new (new : join.name ∉ record.joined) :
    record.ask join = ⟨record.joined ++ [join.name], record.joins ++ [join]⟩ := by
  rw [ask, if_neg fun known => new (List.contains_iff_mem.mp known)]

theorem joined_ask : join.name ∈ (record.ask join).joined := by
  by_cases known : join.name ∈ record.joined
  · rwa [ask_known known]
  · rw [ask_new known]
    exact List.mem_append_right _ (.head _)

theorem askAll_append (record : JoinRecord) (first second : List Join) :
    record.askAll (first ++ second) = (record.askAll first).askAll second := List.foldl_append

/-- A record grows: what is recorded stays, in its order. -/
structure Extends (before after : JoinRecord) : Prop where
  joined : before.joined <+: after.joined
  joins : before.joins <+: after.joins

theorem Extends.refl (record : JoinRecord) : Extends record record := ⟨List.prefix_rfl, List.prefix_rfl⟩

theorem Extends.trans {before between after : JoinRecord} (one : Extends before between)
    (other : Extends between after) : Extends before after :=
  ⟨one.joined.trans other.joined, one.joins.trans other.joins⟩

theorem extends_ask (record : JoinRecord) (join : Join) : Extends record (record.ask join) := by
  by_cases known : join.name ∈ record.joined
  · rw [ask_known known]
    exact .refl record
  · rw [ask_new known]
    exact ⟨List.prefix_append .., List.prefix_append ..⟩

theorem extends_askAll (record : JoinRecord) (asked : List Join) : Extends record (record.askAll asked) := by
  induction asked generalizing record with
  | nil => exact .refl record
  | cons join rest ih => exact (extends_ask record join).trans (ih _)

/-- After joins were asked for, each of their tables is recorded. -/
theorem joined_askAll (member : join ∈ asked) : join.name ∈ (record.askAll asked).joined := by
  induction asked generalizing record with
  | nil => cases member
  | cons first rest ih =>
    rcases List.mem_cons.mp member with rfl | later
    · exact (extends_askAll (record.ask join) rest).joined.subset joined_ask
    · exact ih later

/-- A record over the tables of a base: every other recorded table was joined under its name, once. -/
structure Sound (base : List String) (record : JoinRecord) : Prop where
  joined : record.joined = base ++ record.joins.map Join.name
  once : (record.joins.map Join.name).Nodup
  apart : ∀ name ∈ record.joins.map Join.name, name ∉ base

theorem Sound.ask {base : List String} (sound : record.Sound base) (join : Join) : (record.ask join).Sound base := by
  by_cases known : join.name ∈ record.joined
  · rwa [ask_known known]
  · have fresh := known
    rw [sound.joined, List.mem_append, not_or] at fresh
    rw [ask_new known]
    refine ⟨?_, ?_, ?_⟩
    · simp [sound.joined]
    · rw [List.map_append, List.nodup_append]
      refine ⟨sound.once, by simp, ?_⟩
      rintro name earlier other last rfl
      exact fresh.2 (List.mem_singleton.mp last ▸ earlier)
    · rw [List.map_append]
      intro name member
      rcases List.mem_append.mp member with earlier | last
      · exact sound.apart name earlier
      · exact List.mem_singleton.mp last ▸ fresh.1

theorem Sound.askAll {base : List String} (sound : record.Sound base) (asked : List Join) :
    (record.askAll asked).Sound base := by
  induction asked generalizing record with
  | nil => exact sound
  | cons join rest ih => exact ih (sound.ask join)

/-- The joins of a record are the ones it had, and those that were asked for first under a name that is new. -/
theorem mem_askAll :
    join ∈ (record.askAll asked).joins ↔ join ∈ record.joins ∨
      (join.name ∉ record.joined ∧ asked.find? (·.name == join.name) = some join) := by
  induction asked generalizing record with
  | nil => simp [askAll]
  | cons first rest ih =>
    have step : record.askAll (first :: rest) = (record.ask first).askAll rest := rfl
    rw [step, ih]
    by_cases same : first.name = join.name
    · have found : (first :: rest).find? (·.name == join.name) = some first := List.find?_cons_of_pos (by simp [same])
      rw [found]
      by_cases known : first.name ∈ record.joined
      · simp [ask_known known, ← same, known]
      · simp [ask_new known, ← same, known, eq_comm]
    · have found : (first :: rest).find? (·.name == join.name) = rest.find? (·.name == join.name) :=
        List.find?_cons_of_neg (by simp [same])
      rw [found]
      by_cases known : first.name ∈ record.joined
      · rw [ask_known known]
      · have other : join ≠ first := fun equal => same (equal ▸ rfl)
        simp [ask_new known, other, Ne.symm same]

/-- Joins of distinct tables that are not joined yet are all added. -/
theorem askAll_fresh (distinct : (asked.map Join.name).Nodup) (fresh : ∀ join ∈ asked, join.name ∉ record.joined) :
    record.askAll asked = ⟨record.joined ++ asked.map Join.name, record.joins ++ asked⟩ := by
  induction asked generalizing record with
  | nil => simp [askAll]
  | cons join rest ih =>
    obtain ⟨new, others⟩ := List.forall_mem_cons.mp fresh
    rw [List.map_cons, List.nodup_cons] at distinct
    have step : record.askAll (join :: rest) = (record.ask join).askAll rest := rfl
    rw [step, ask_new new, ih distinct.2]
    · simp
    · intro later member known
      rcases List.mem_append.mp known with before | now
      · exact others later member before
      · exact distinct.1 (List.mem_singleton.mp now ▸ List.mem_map_of_mem member)

end JoinRecord

namespace Relation

/-- The joins that a relation asks for. That of a pivot table comes before that of the related one. -/
def joins (adapter : Adapter) (relation : Relation) : List Join :=
  let on := Query.joinCondition adapter
  match relation with
  | belongsTo table foreignKey ownerKey => [⟨true, ⟨table, none⟩, on foreignKey ownerKey none⟩]
  | hasMany table foreignKey localKey => [⟨true, ⟨table, none⟩, on foreignKey localKey none⟩]
  | belongsToMany table pivot parentKey pivotParentKey pivotRelatedKey relatedKey =>
    [⟨true, ⟨pivot, none⟩, on pivotParentKey parentKey none⟩, ⟨true, ⟨table, none⟩, on pivotRelatedKey relatedKey none⟩]
  | polymorphic table foreignKey otherKey _ _ =>
    [⟨true, ⟨table, none⟩, on foreignKey otherKey (relation.morphCondition? adapter)⟩]

/-- The tables that a relation brings in, a pivot table before the related one. -/
def tables : Relation → List String
  | belongsToMany table pivot .. => [pivot, table]
  | relation => [relation.table]

theorem joins_names (adapter : Adapter) (relation : Relation) :
    (relation.joins adapter).map Join.name = relation.tables := by
  cases relation <;> rfl

theorem joins_outer (adapter : Adapter) (relation : Relation) : ∀ join ∈ relation.joins adapter, join.outer = true := by
  cases relation <;> simp [joins]

theorem allJoins_names (adapter : Adapter) (relations : List Relation) :
    (relations.flatMap (joins adapter)).map Join.name = relations.flatMap tables := by
  rw [List.map_flatMap]
  exact List.flatMap_congr fun relation _ => relation.joins_names adapter

theorem table_mem_tables (relation : Relation) : relation.table ∈ relation.tables := by
  cases relation with
  | belongsToMany => exact .tail _ (.head _)
  | _ => exact .head _

end Relation

namespace Query

def record (query : Query) : JoinRecord := ⟨query.joined, query.joins⟩

theorem leftJoin_record (query : Query) (target : TableName) (on : Cond) :
    (query.leftJoin target on).2.record = query.record.ask ⟨true, target, on⟩ := by
  cases known : query.hasJoin target.shown with
  | true =>
    have member : target.shown ∈ query.joined := List.contains_iff_mem.mp known
    rw [leftJoin, if_pos known, JoinRecord.ask_known member]
  | false =>
    have fresh : target.shown ∉ query.joined := fun member => by
      rw [hasJoin, List.contains_iff_mem.mpr member] at known
      cases known
    rw [leftJoin, if_neg (by simp [known]), JoinRecord.ask_new fresh]
    rfl

theorem joinRelation_record (query : Query) (column : String) (relation : Relation) :
    (query.joinRelation column relation).record = query.record.askAll (relation.joins query.adapter) := by
  cases relation with
  | belongsToMany table pivot parentKey pivotParentKey pivotRelatedKey relatedKey =>
    rw [joinRelation, leftJoin_record]
    have named (query : Query) : (query.addColumn (table ++ "." ++ column)).record = query.record := rfl
    rw [named, leftJoin_record]
    rfl
  | _ => exact leftJoin_record ..

theorem joinRelations_record (query : Query) (column : String) (relations : List Relation) :
    (relations.foldl (fun query relation => query.joinRelation column relation) query).record =
      query.record.askAll (relations.flatMap (Relation.joins query.adapter)) := by
  induction relations generalizing query with
  | nil => rfl
  | cons relation rest ih =>
    rw [List.foldl_cons, ih, joinRelation_record, (joinRelation_alike query column relation).adapter,
      ← JoinRecord.askAll_append, List.flatMap_cons]

/-- Joining along a path asks for the joins of its relations, and the answer is a column of the last table. -/
theorem joinPath_record {query joined : Query} {registry : Registry} {path column name : String}
    (reached : query.joinPath registry path column = .ok (name, joined)) :
    ∃ relations, registry.walk query.mainTable? path = .ok relations ∧
      name = (relations.getLast?.map Relation.table).getD "" ++ "." ++ column ∧
      joined.record = query.record.askAll (relations.flatMap (Relation.joins query.adapter)) := by
  obtain ⟨relations, walked, same⟩ := Except.bind_ok reached
  cases same
  exact ⟨relations, walked, rfl, joinRelations_record query column relations⟩

end Query

end DataGrid
