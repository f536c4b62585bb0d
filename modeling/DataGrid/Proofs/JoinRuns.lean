import DataGrid.Proofs.ColumnTables
import DataGrid.Proofs.JoinRecord

/-! Runs of joins on one query, of single tables and along relation paths. Whatever is asked for, the record of joined
tables is that of the base and of the joins, no table is joined twice, and earlier joins stay in their places. Where the
keys of the relations lie on their own tables, each join names only tables that stand before it. -/

namespace DataGrid

open Sql

namespace Sql

/-- The tables in the `FROM` of a statement. -/
def Select.tables (base : Select) : List String :=
  (base.source.bind Source.name?).toList ++ base.joins.map Join.name

variable {adapter : Adapter} {tables : List String}

/-- Whether each join names only the table that it joins, the given tables, and those joined before it. -/
def JoinsScoped (adapter : Adapter) (tables : List String) (joins : List Join) : Prop :=
  ∀ before join after, joins = before ++ join :: after →
    join.on.NamesOnly adapter (join.name :: (tables ++ before.map Join.name))

/-- Whether each join is of a kind, given some tables and those joined before it. -/
def InTurn (holds : List String → Join → Prop) (tables : List String) (joins : List Join) : Prop :=
  ∀ before join after, joins = before ++ join :: after → holds (tables ++ before.map Join.name) join

/-- Whether a join names only the table that it joins and given ones. -/
def Join.Scoped (adapter : Adapter) (seen : List String) (join : Join) : Prop :=
  join.on.NamesOnly adapter (join.name :: seen)

theorem joinsScoped_iff {joins : List Join} :
    JoinsScoped adapter tables joins ↔ InTurn (Join.Scoped adapter) tables joins := .rfl

theorem Join.Scoped.mono (seen more : List String) (join : Join) (within : seen ⊆ more)
    (inside : join.Scoped adapter seen) : join.Scoped adapter more :=
  Cond.NamesOnly.mono inside (List.cons_subset_cons _ within)

section InTurn
variable {holds : List String → Join → Prop}

theorem InTurn.nil (holds : List String → Join → Prop) (tables : List String) : InTurn holds tables [] := by
  intro before join after none
  cases before <;> cases none

theorem InTurn.append {joins : List Join} (inside : InTurn holds tables joins) (join : Join)
    (last : holds (tables ++ joins.map Join.name) join) : InTurn holds tables (joins ++ [join]) := by
  intro before other after split
  rcases List.eq_nil_or_concat after with rfl | ⟨earlier, final, rfl⟩
  · obtain ⟨rfl, same⟩ := List.append_inj' split rfl
    obtain rfl := List.singleton_inj.mp same
    exact last
  · have inner : joins = before ++ other :: earlier := by
      have whole : joins ++ [join] = (before ++ other :: earlier) ++ [final] := by simpa using split
      exact (List.append_inj' whole rfl).1
    exact inside before other earlier inner

theorem InTurn.head {join : Join} {rest : List Join} (inside : InTurn holds tables (join :: rest)) :
    holds tables join := by
  simpa using inside [] join rest rfl

theorem InTurn.tail {join : Join} {rest : List Join} (inside : InTurn holds tables (join :: rest)) :
    InTurn holds (tables ++ [join.name]) rest := by
  intro before other after split
  simpa using inside (join :: before) other after (by rw [split, List.cons_append])

theorem InTurn.first {joins more : List Join} (inside : InTurn holds tables (joins ++ more)) :
    InTurn holds tables joins := by
  intro before join after split
  exact inside before join (after ++ more) (by rw [split, List.append_assoc, List.cons_append])

theorem InTurn.rest {joins more : List Join} (inside : InTurn holds tables (joins ++ more)) :
    InTurn holds (tables ++ joins.map Join.name) more := by
  intro before join after split
  simpa using inside (joins ++ before) join after (by rw [split, List.append_assoc])

end InTurn

theorem JoinsScoped.nil (adapter : Adapter) (tables : List String) : JoinsScoped adapter tables [] :=
  InTurn.nil (Join.Scoped adapter) tables

end Sql

namespace JoinRecord

variable {adapter : Adapter} {base tables seen : List String} {record : JoinRecord} {asked : List Join}

/-- What is joined already is in scope for what is joined next. -/
theorem Sound.in_scope (sound : record.Sound base) (within : base ⊆ tables) :
    record.joined ⊆ tables ++ record.joins.map Join.name := by
  rw [sound.joined]
  exact List.append_subset.mpr ⟨List.subset_append_of_subset_left _ within, List.subset_append_right ..⟩

/-- Joins of a kind that goes by the tables in scope, asked for in turn, keep those of a record of that kind. A join
that is left out leaves its table in scope for those after it. -/
theorem Sound.askAll_inTurn {holds : List String → Join → Prop}
    (mono : ∀ seen more join, seen ⊆ more → holds seen join → holds more join) (sound : record.Sound base)
    (within : base ⊆ tables) (inside : InTurn holds tables record.joins) (next : InTurn holds seen asked)
    (known : seen ⊆ tables ++ record.joins.map Join.name) : InTurn holds tables (record.askAll asked).joins := by
  induction asked generalizing record seen with
  | nil => exact inside
  | cons join rest ih =>
    have grown := (extends_ask record join).joins
    have later : seen ++ [join.name] ⊆ tables ++ (record.ask join).joins.map Join.name := by
      refine List.append_subset.mpr ⟨fun table member => ?_, ?_⟩
      · rcases List.mem_append.mp (known member) with given | joined
        · exact List.mem_append_left _ given
        · exact List.mem_append_right _ ((grown.map Join.name).subset joined)
      · have recorded := (sound.ask join).in_scope within joined_ask
        simpa using recorded
    refine ih (sound.ask join) ?_ next.tail later
    by_cases known' : join.name ∈ record.joined
    · rwa [ask_known known']
    · rw [ask_new known']
      exact inside.append join (mono _ _ _ known next.head)

end JoinRecord

namespace Query

theorem joinCondition_namesOnly {adapter : Adapter} {tables : List String} {first second : String}
    {extra : Option Atom} :
    (joinCondition adapter first second extra).NamesOnly adapter tables ↔
      ((adapter.column first).NamesOnly adapter tables ∧ (adapter.column second).NamesOnly adapter tables) ∧
        ∀ test ∈ extra, test.NamesOnly adapter tables := by
  cases extra with
  | none => exact (and_iff_left fun _ none => nomatch none).symm
  | some test =>
    rw [joinCondition, Cond.namesOnly_join]
    simp [Cond.NamesOnly, Atom.NamesOnly]

end Query

namespace Relation

def keys : Relation → List String
  | belongsTo _ foreignKey ownerKey => [foreignKey, ownerKey]
  | hasMany _ foreignKey localKey => [foreignKey, localKey]
  | belongsToMany _ _ parentKey pivotParentKey pivotRelatedKey relatedKey =>
    [parentKey, pivotParentKey, pivotRelatedKey, relatedKey]
  | polymorphic _ foreignKey otherKey _ _ => [foreignKey, otherKey]

/-- Whether the keys of a relation, and the column that holds its type, lie on its source, its target and its pivot
table. -/
structure KeysWithin (adapter : Adapter) (source : String) (relation : Relation) : Prop where
  keys : ∀ key ∈ relation.keys, (adapter.column key).NamesOnly adapter (source :: relation.tables)
  type : ∀ test ∈ relation.morphCondition? adapter, test.NamesOnly adapter (source :: relation.tables)

/-- Whether the keys that link a pivot table to the source leave the target alone, which is joined after it. -/
def PivotFirst (adapter : Adapter) (source : String) : Relation → Prop
  | belongsToMany _ pivot parentKey pivotParentKey _ _ =>
    (adapter.column pivotParentKey).NamesOnly adapter [source, pivot] ∧
      (adapter.column parentKey).NamesOnly adapter [source, pivot]
  | _ => True

variable {adapter : Adapter} {source : String}

private theorem single_scoped {table first second : String} {extra : Option Atom}
    (keys : ∀ key ∈ [first, second], (adapter.column key).NamesOnly adapter [source, table])
    (type : ∀ test ∈ extra, test.NamesOnly adapter [source, table]) :
    JoinsScoped adapter [source] [⟨true, ⟨table, none⟩, Query.joinCondition adapter first second extra⟩] := by
  have within : [source, table] ⊆ table :: ([source] ++ [].map Join.name) := by simp
  apply (InTurn.nil (Join.Scoped adapter) [source]).append _
  refine Query.joinCondition_namesOnly.mpr ⟨⟨?_, ?_⟩, fun test member => (type test member).mono within⟩
  · exact (keys first (.head _)).mono within
  · exact (keys second (.tail _ (.head _))).mono within

theorem joins_scoped {relation : Relation} (keyed : relation.KeysWithin adapter source)
    (first : relation.PivotFirst adapter source) : JoinsScoped adapter [source] (relation.joins adapter) := by
  cases relation with
  | belongsTo table foreignKey ownerKey | hasMany table foreignKey localKey =>
    exact single_scoped keyed.keys fun _ none => nomatch none
  | polymorphic table foreignKey otherKey morphType morphClass => exact single_scoped keyed.keys keyed.type
  | belongsToMany table pivot parentKey pivotParentKey pivotRelatedKey relatedKey =>
    have parent : [source, pivot] ⊆ pivot :: ([source] ++ [].map Join.name) := by simp
    have related : [source, pivot, table] ⊆ table :: ([source] ++ [pivot]) := by simp
    have untyped {tables : List String} : ∀ test ∈ (none : Option Atom), test.NamesOnly adapter tables := by simp
    have one : (Query.joinCondition adapter pivotParentKey parentKey none).NamesOnly adapter _ :=
      Query.joinCondition_namesOnly.mpr ⟨⟨first.1.mono parent, first.2.mono parent⟩, untyped⟩
    have other : (Query.joinCondition adapter pivotRelatedKey relatedKey none).NamesOnly adapter _ :=
      Query.joinCondition_namesOnly.mpr ⟨⟨(keyed.keys pivotRelatedKey (by simp [keys])).mono related,
        (keyed.keys relatedKey (by simp [keys])).mono related⟩, untyped⟩
    have pivot : InTurn (Join.Scoped adapter) [source] [⟨true, ⟨pivot, none⟩, _⟩] := (InTurn.nil _ _).append _ one
    exact pivot.append ⟨true, ⟨table, none⟩, _⟩ other

end Relation

namespace Registry

/-- Whether every relation of a registry is of a kind, given the table that it belongs to. -/
def Each (registry : Registry) (holds : String → Relation → Prop) : Prop :=
  ∀ table name relation, registry.find (some table) name = .ok relation → holds table relation

/-- Whether every name of a path is a relation of the table to which the one before it leads. -/
def Defines (registry : Registry) : (table : Option String) → List String → Prop
  | _, [] => True
  | table, name :: rest =>
    ∃ relation, (table.bind fun table => (registry.ofTable table).lookup name) = some relation ∧
      registry.Defines (some relation.table) rest

variable {registry : Registry}

theorem find_mem {table name : String} {relation : Relation} (found : registry.find (some table) name = .ok relation) :
    ∃ relations, (table, relations) ∈ registry.tables ∧ (name, relation) ∈ relations := by
  have among {α : Type} {pairs : List (String × α)} {key : String} {value : α}
      (found : pairs.lookup key = some value) : (key, value) ∈ pairs := by
    obtain ⟨before, after, same, _⟩ := List.lookup_eq_some_iff.mp found
    rw [same]
    exact List.mem_append_right _ (.head _)
  rw [find, Option.bind_some, ofTable] at found
  cases listed : registry.tables.lookup table with
  | none =>
    rw [listed] at found
    cases found
  | some relations =>
    rw [listed, Option.getD_some] at found
    cases held : relations.lookup name with
    | none =>
      rw [held] at found
      cases found
    | some other =>
      rw [held] at found
      cases found
      exact ⟨relations, among listed, among held⟩

theorem each_of_tables {holds : String → Relation → Prop}
    (each : ∀ entry ∈ registry.tables, ∀ pair ∈ entry.2, holds entry.1 pair.2) : registry.Each holds := by
  intro table name relation found
  obtain ⟨relations, listed, held⟩ := find_mem found
  exact each _ listed _ held

theorem walkFrom_cons {table : Option String} {name : String} {rest : List String} {relations : List Relation}
    (walked : registry.walkFrom table (name :: rest) = .ok relations) :
    ∃ relation others, relations = relation :: others ∧ registry.find table name = .ok relation ∧
      registry.walkFrom (some relation.table) rest = .ok others := by
  obtain ⟨relation, found, walked⟩ := Except.bind_ok walked
  obtain ⟨others, more, same⟩ := Except.bind_ok walked
  cases same
  exact ⟨relation, others, rfl, found, more⟩

/-- A path has relations: even an empty text has a name. -/
theorem walk_ne_nil {table : Option String} {path : String} {relations : List Relation}
    (walked : registry.walk table path = .ok relations) : relations ≠ [] := by
  obtain ⟨name, rest, listed⟩ := List.exists_cons_of_ne_nil (Text.splitString_ne_nil '.' path)
  rw [walk, listed] at walked
  obtain ⟨_, _, rfl, _⟩ := walkFrom_cons walked
  exact List.cons_ne_nil _ _

/-- A path is followed when each of its names is defined; else the first one that is not is the failure. -/
theorem walkFrom_cases (registry : Registry) (table : Option String) (names : List String) :
    (registry.Defines table names ∧ ∃ relations, registry.walkFrom table names = .ok relations) ∨
      (¬ registry.Defines table names ∧
        ∃ name table', registry.walkFrom table names = .error (.undefinedRelation name table')) := by
  induction names generalizing table with
  | nil => exact .inl ⟨trivial, [], rfl⟩
  | cons name rest ih =>
    cases found : table.bind fun table => (registry.ofTable table).lookup name with
    | none =>
      refine .inr ⟨?_, name, table.getD "None", ?_⟩
      · rintro ⟨relation, same, _⟩
        rw [found] at same
        cases same
      · rw [walkFrom, find, found]
        rfl
    | some relation =>
      have first : registry.find table name = .ok relation := by rw [find, found]
      rcases ih (some relation.table) with ⟨defined, others, walked⟩ | ⟨undefined, last, table', failed⟩
      · refine .inl ⟨⟨relation, found, defined⟩, relation :: others, ?_⟩
        rw [walkFrom, first, Except.ok_bind, walked]
        rfl
      · refine .inr ⟨?_, last, table', ?_⟩
        · rintro ⟨other, same, defined⟩
          rw [found] at same
          cases same
          exact undefined defined
        · rw [walkFrom, first, Except.ok_bind, failed]
          rfl

end Registry

/-- Joins along a path are of a kind that goes by the tables in scope when those of each relation are: it starts from a
table that was joined for the one before it, or for something else before. -/
theorem JoinRecord.Sound.path_inTurn {adapter : Adapter} {holds : List String → Join → Prop}
    {base tables names : List String} {source : String} {record : JoinRecord} {registry : Registry}
    {relations : List Relation} (mono : ∀ seen more join, seen ⊆ more → holds seen join → holds more join)
    (each : registry.Each fun table relation => InTurn holds [table] (relation.joins adapter))
    (walked : registry.walkFrom (some source) names = .ok relations) (sound : record.Sound base)
    (within : base ⊆ tables) (inside : InTurn holds tables record.joins)
    (known : source ∈ tables ++ record.joins.map Join.name) :
    InTurn holds tables (record.askAll (relations.flatMap (Relation.joins adapter))).joins := by
  induction names generalizing source record relations with
  | nil =>
    cases walked
    exact inside
  | cons name rest ih =>
    obtain ⟨relation, others, rfl, found, more⟩ := Registry.walkFrom_cons walked
    rw [List.flatMap_cons, askAll_append]
    have grown := sound.askAll (relation.joins adapter)
    have step := sound.askAll_inTurn mono within inside (each source name relation found) (by simpa using known)
    -- The next relation starts from the table of this one, which is joined now or was before.
    refine ih more grown step (grown.in_scope within ?_)
    have brought : relation.table ∈ (relation.joins adapter).map Join.name := by
      rw [Relation.joins_names]
      exact relation.table_mem_tables
    obtain ⟨join, member, named⟩ := List.mem_map.mp brought
    exact named ▸ joined_askAll member

namespace Query

variable {query : Query} {registry : Registry} {path : String}

theorem joinPath_walked {relations : List Relation} (walked : registry.walk query.mainTable? path = .ok relations)
    (column : String) :
    ∃ name, query.joinPath registry path column =
      .ok (name, relations.foldl (fun query relation => query.joinRelation column relation) query) := by
  refine ⟨(relations.getLast?.map Relation.table).getD "" ++ "." ++ column, ?_⟩
  rw [joinPath, walked]
  rfl

/-- Joining along a path joins what each of its relations asks for in turn. -/
theorem joinPath_inTurn {holds : List String → Join → Prop} {base tables : List String} {column name : String}
    {after : Query} (mono : ∀ seen more join, seen ⊆ more → holds seen join → holds more join)
    (each : registry.Each fun table relation => InTurn holds [table] (relation.joins query.adapter))
    (sound : query.record.Sound base) (within : base ⊆ tables) (main : ∀ table ∈ query.mainTable?, table ∈ tables)
    (inside : InTurn holds tables query.joins)
    (reached : query.joinPath registry path column = .ok (name, after)) : InTurn holds tables after.joins := by
  obtain ⟨relations, walked, _, record⟩ := joinPath_record reached
  change InTurn holds tables after.record.joins
  rw [record]
  rw [Registry.walk] at walked
  cases found : query.mainTable? with
  | some table =>
    rw [found] at walked
    exact sound.path_inTurn mono each walked within inside (List.mem_append_left _ (main table found))
  | none =>
    rw [found] at walked
    cases names : Text.splitString '.' path with
    | nil =>
      rw [names] at walked
      cases walked
      exact inside
    | cons name rest =>
      rw [names] at walked
      obtain ⟨relation, _, _, none, _⟩ := Registry.walkFrom_cons walked
      cases none

/-- A query to which nothing was joined yet records the joins of its base. -/
theorem ofSelect_sound (base : Select) (dialect : Dialect) (oracle : Bool) :
    (ofSelect base dialect oracle).record.Sound (joinedTables base) := ⟨(List.append_nil _).symm, .nil, nofun⟩

theorem joinPath_failed {failure : Error} (failed : registry.walk query.mainTable? path = .error failure)
    (column : String) : query.joinPath registry path column = .error failure := by
  rw [joinPath, failed]
  rfl

end Query

/-- A call that may join tables to a query: a single table, or those along a relation path. -/
inductive JoinCall where
  | table (target : TableName) (on : Cond)
  | path (registry : Registry) (along column : String)

namespace JoinCall

/-- The query after a call; one that fails leaves it as it was. -/
def run (query : Query) : JoinCall → Query
  | .table target on => (query.leftJoin target on).2
  | .path registry along column =>
    match query.joinPath registry along column with
    | .ok (_, joined) => joined
    | .error _ => query

def runAll (query : Query) (calls : List JoinCall) : Query := calls.foldl run query

def asks (query : Query) : JoinCall → List Join
  | .table target on => [⟨true, target, on⟩]
  | .path registry along _ =>
    match registry.walk query.mainTable? along with
    | .ok relations => relations.flatMap (Relation.joins query.adapter)
    | .error _ => []

/-- Whether what a call asks for names only tables that are in scope once its own are. -/
def Keyed (query : Query) : JoinCall → Prop
  | .table target on =>
    on.NamesOnly query.adapter (target.shown :: (query.base.tables ++ query.joins.map Join.name))
  | .path registry _ _ =>
    registry.Each fun table relation =>
      relation.KeysWithin query.adapter table ∧ relation.PivotFirst query.adapter table

def AllKeyed : Query → List JoinCall → Prop
  | _, [] => True
  | query, call :: rest => call.Keyed query ∧ AllKeyed (call.run query) rest

variable {query : Query}

theorem run_alike (query : Query) (call : JoinCall) : Query.Alike query (call.run query) := by
  cases call with
  | table target on => exact Query.leftJoin_alike query target on
  | path registry along column =>
    rw [run]
    split
    · next reached => exact Query.joinPath_alike reached
    · exact .refl query

/-- A call asks for its joins, whatever it comes to. -/
theorem run_record (query : Query) (call : JoinCall) :
    (call.run query).record = query.record.askAll (call.asks query) := by
  cases call with
  | table target on => exact Query.leftJoin_record query target on
  | path registry along column =>
    rw [run, asks]
    cases walked : registry.walk query.mainTable? along with
    | error failure =>
      rw [Query.joinPath_failed walked]
      rfl
    | ok relations =>
      obtain ⟨name, reached⟩ := Query.joinPath_walked walked column
      rw [reached]
      exact Query.joinRelations_record query column relations

theorem run_scoped {base : List String} (call : JoinCall) (keyed : call.Keyed query) (sound : query.record.Sound base)
    (within : base ⊆ query.base.tables) (main : ∀ table ∈ query.mainTable?, table ∈ query.base.tables)
    (inside : JoinsScoped query.adapter query.base.tables query.joins) :
    JoinsScoped query.adapter query.base.tables (call.run query).joins := by
  rw [joinsScoped_iff] at inside ⊢
  cases call with
  | table target on =>
    have single : InTurn (Join.Scoped query.adapter) (query.base.tables ++ query.joins.map Join.name)
        [⟨true, target, on⟩] :=
      (InTurn.nil _ _).append ⟨true, target, on⟩ (keyed.mono (by simp [Join.name]))
    change InTurn _ _ (Query.record (query.leftJoin target on).2).joins
    rw [Query.leftJoin_record]
    exact sound.askAll_inTurn Join.Scoped.mono within inside single fun _ member => member
  | path registry along column =>
    rw [run]
    split
    · next reached =>
      refine Query.joinPath_inTurn Join.Scoped.mono (fun table name relation found => ?_) sound within main inside
        reached
      obtain ⟨own, first⟩ := keyed table name relation found
      exact Relation.joins_scoped own first
    · exact inside

theorem runAll_alike (query : Query) (calls : List JoinCall) : Query.Alike query (runAll query calls) := by
  induction calls generalizing query with
  | nil => exact .refl query
  | cons call rest ih => exact (run_alike query call).trans (ih _)

theorem runAll_extends (query : Query) (calls : List JoinCall) :
    JoinRecord.Extends query.record (runAll query calls).record := by
  induction calls generalizing query with
  | nil => exact .refl _
  | cons call rest ih =>
    have step := run_record query call ▸ JoinRecord.extends_askAll query.record (call.asks query)
    exact step.trans (ih _)

theorem runAll_sound {base : List String} (calls : List JoinCall) (sound : query.record.Sound base) :
    (runAll query calls).record.Sound base := by
  induction calls generalizing query with
  | nil => exact sound
  | cons call rest ih => exact ih (run_record query call ▸ sound.askAll (call.asks query))

theorem runAll_scoped {base : List String} {calls : List JoinCall} (keyed : AllKeyed query calls)
    (sound : query.record.Sound base) (within : base ⊆ query.base.tables)
    (main : ∀ table ∈ query.mainTable?, table ∈ query.base.tables)
    (inside : JoinsScoped query.adapter query.base.tables query.joins) :
    JoinsScoped query.adapter query.base.tables (runAll query calls).joins := by
  induction calls generalizing query with
  | nil => exact inside
  | cons call rest ih =>
    have alike := run_alike query call
    have step := run_scoped call keyed.1 sound within main inside
    have sound := run_record query call ▸ sound.askAll (call.asks query)
    have mainTable : (call.run query).mainTable? = query.mainTable? := by
      rw [Query.mainTable?, alike.base, Query.mainTable?]
    rw [← alike.base, ← alike.adapter] at step ⊢
    exact ih keyed.2 sound (alike.base ▸ within) (mainTable ▸ alike.base ▸ main) step

private def products : Select := { Select.empty with source := some (.table ⟨"products", none⟩) }

/-- Products and their tags, with the given key of the pivot table. -/
private def tagged (pivotParent : String) : Registry :=
  ⟨[("products", [("tags",
    .belongsToMany "tags" "product_tags" "products.id" pivotParent "product_tags.tag_id" "tags.id")])]⟩

private theorem tagged_each {pivotParent : String} {holds : String → Relation → Prop}
    (each : holds "products"
      (.belongsToMany "tags" "product_tags" "products.id" pivotParent "product_tags.tag_id" "tags.id")) :
    (tagged pivotParent).Each holds := by
  apply Registry.each_of_tables
  intro entry listed pair held
  obtain rfl := List.mem_singleton.mp listed
  obtain rfl := List.mem_singleton.mp held
  exact each

end JoinCall

end DataGrid
