import DataGrid.RowOrder
import DataGrid.Proofs.JoinRuns
import DataGrid.Proofs.SearchSteps

/-! Which joins the searches and orders of a request leave behind. A column over relations is resolved by the names of
tables alone, so a table stands for the relation that was followed to it first. Where no two relations lead to tables of
one name, every column is resolved through the joins of its own relations. -/

namespace DataGrid

open Sql

/-- A query over the base of another one, joined to it what is of a kind. -/
structure Query.AskedFrom (start : Query) (kind : Join → Prop) (query : Query) : Prop where
  base : query.base = start.base
  adapter : query.adapter = start.adapter
  record : ∃ asked, (∀ join ∈ asked, kind join) ∧ query.record = start.record.askAll asked

namespace Query.AskedFrom

variable {start query after : Query} {kind : Join → Prop}

theorem refl (query : Query) : AskedFrom query kind query := ⟨rfl, rfl, [], List.forall_mem_nil _, rfl⟩

theorem trans (asked : AskedFrom start kind query) (more : AskedFrom query kind after) :
    AskedFrom start kind after := by
  obtain ⟨joins, own, record⟩ := asked.record
  obtain ⟨later, others, grown⟩ := more.record
  refine ⟨more.base.trans asked.base, more.adapter.trans asked.adapter, joins ++ later, ?_, ?_⟩
  · exact fun join member => (List.mem_append.mp member).elim (own join) (others join)
  · rw [grown, record, JoinRecord.askAll_append]

theorem mainTable (asked : AskedFrom start kind query) : query.mainTable? = start.mainTable? := by
  rw [Query.mainTable?, asked.base, Query.mainTable?]

/-- What was joined is of the kind that was asked for. -/
theorem joins (asked : AskedFrom start kind query) {join : Join} (member : join ∈ query.joins) :
    join ∈ start.joins ∨ kind join := by
  obtain ⟨joins, own, record⟩ := asked.record
  have recorded : join ∈ (start.record.askAll joins).joins := record ▸ member
  exact (JoinRecord.mem_askAll.mp recorded).imp_right fun new => own join (List.mem_of_find?_eq_some new.2)

theorem withStore (asked : AskedFrom start kind query) (store : Store) :
    AskedFrom start kind { query with store := store } := ⟨asked.base, asked.adapter, asked.record⟩

theorem orderBy (asked : AskedFrom start kind query) (term : SortTerm) : AskedFrom start kind (query.orderBy term) :=
  ⟨asked.base, asked.adapter, asked.record⟩

theorem leftJoin (asked : AskedFrom start kind query) {target : TableName} {on : Cond} (own : kind ⟨true, target, on⟩) :
    AskedFrom start kind (query.leftJoin target on).2 := by
  have alike := Query.leftJoin_alike query target on
  refine asked.trans ⟨alike.base, alike.adapter, [⟨true, target, on⟩], ?_, Query.leftJoin_record query target on⟩
  exact List.forall_mem_singleton.mpr own

theorem joinPath (asked : AskedFrom start kind query) {registry : Registry} {path column name : String}
    (reached : query.joinPath registry path column = .ok (name, after))
    (own : ∀ relations, registry.walk start.mainTable? path = .ok relations →
      ∀ relation ∈ relations, ∀ join ∈ relation.joins start.adapter, kind join) : AskedFrom start kind after := by
  obtain ⟨relations, walked, _, record⟩ := Query.joinPath_record reached
  have alike := Query.joinPath_alike reached
  rw [asked.mainTable] at walked
  refine asked.trans ⟨alike.base, alike.adapter, _, fun join member => ?_, record⟩
  obtain ⟨relation, among, made⟩ := List.mem_flatMap.mp member
  rw [asked.adapter] at made
  exact own relations walked relation among join made

end Query.AskedFrom

/-- Whether a join is one of those that the declared paths ask for. -/
def PathSet.Asks (paths : PathSet) (registry : Registry) (query : Query) (join : Join) : Prop :=
  ∃ path ∈ paths, ∃ relations, registry.walk query.mainTable? path = .ok relations ∧
    ∃ relation ∈ relations, join ∈ relation.joins query.adapter

namespace QueryStep

/-- The join that a step of a script asks for. -/
def join? (adapter : Adapter) : QueryStep → Option Join
  | .call .leftJoin arguments =>
    let argument (index : Nat) : Value := (arguments.map Argument.toValue).getD index .null
    match (argument 0).toTableName, (argument 1).toColumnName, (argument 2).toColumnName with
    | .ok table, .ok first, .ok second => some ⟨true, ⟨table, none⟩, Query.joinCondition adapter first second none⟩
    | _, _, _ => none
  | _ => none

end QueryStep

namespace Query

variable {start query after : Query} {kind : Join → Prop}

theorem call_asked {method : QueryMethod} {arguments : List Argument} {answer : Value}
    (asked : AskedFrom start kind query)
    (own : ∀ join, (QueryStep.call method arguments).join? start.adapter = some join → kind join)
    (called : query.call method arguments = .ok (answer, after)) : AskedFrom start kind after := by
  cases method with
  | compare | raw =>
    obtain ⟨next, called, same⟩ := Except.bind_ok called
    cases same
    obtain ⟨store, _, same⟩ := Except.bind_ok called
    cases same
    exact asked.withStore store
  | leftJoin =>
    obtain ⟨_, _, called⟩ := Except.bind_ok called
    obtain ⟨table, named, called⟩ := Except.bind_ok called
    obtain ⟨⟨added, next⟩, joined, same⟩ := Except.bind_ok called
    cases same
    unfold leftJoinNamed at joined
    split at joined
    · cases joined
      exact asked
    · obtain ⟨first, one, joined⟩ := Except.bind_ok joined
      obtain ⟨second, other, same⟩ := Except.bind_ok joined
      have moved : _ = after := congrArg Prod.snd (Except.ok.inj same)
      rw [← moved, asked.adapter]
      refine asked.leftJoin (own _ ?_)
      simp only [QueryStep.join?, named, one, other]
  | hasJoin =>
    obtain ⟨_, _, called⟩ := Except.bind_ok called
    split at called
    all_goals
      split at called
      · cases called
      · cases called
        exact asked
  | addItem =>
    obtain ⟨_, _, called⟩ := Except.bind_ok called
    split at called <;> cases called <;> exact ⟨asked.base, asked.adapter, asked.record⟩
  | orderByRaw =>
    obtain ⟨_, _, called⟩ := Except.bind_ok called
    obtain ⟨next, ordered, same⟩ := Except.bind_ok called
    cases same
    obtain ⟨places, _, ordered⟩ := Except.bind_ok ordered
    split at ordered
    · obtain ⟨content, _, same⟩ := Except.bind_ok ordered
      cases same
      exact asked.orderBy _
    · split at ordered <;> cases ordered <;> exact asked.orderBy _
  | skip | take =>
    obtain ⟨_, _, same⟩ := Except.bind_ok called
    cases same
    exact ⟨asked.base, asked.adapter, asked.record⟩

end Query

namespace QueryStep

variable {start : Query} {kind : Join → Prop}

theorem runAll_asked {steps : List QueryStep}
    (own : ∀ step ∈ steps, ∀ join, step.join? start.adapter = some join → kind join) :
    Action.Stays (Query.AskedFrom start kind) (runAll steps) := by
  refine .forM steps fun step member => .bind ?_ fun _ => .pure _
  intro before asked
  cases step with
  | call method arguments =>
    cases called : before.call method arguments with
    | error failure =>
      simp only [run, called]
      exact asked
    | ok pair =>
      simp only [run, called]
      exact Query.call_asked asked (own _ member) called
  | nested word steps =>
    cases opened : before.store.nestedNamed before.root word with
    | error failure =>
      simp only [run, opened]
      exact asked
    | ok pair =>
      simp only [run, opened]
      have inner : Action.Stays (Query.AskedFrom start kind)
          (onStore (GroupStep.runAll before.adapter pair.1 steps)) := fun query asked => asked.withStore _
      exact inner.bind (fun _ => .pure _) _ (asked.withStore pair.2)

end QueryStep

namespace Search

variable {search : Search}

theorem runOwn_asked {start : Query} {kind : Join → Prop}
    (own : ∀ join, search.paths.Asks search.registry start join → kind join) :
    Action.Stays (fun searching => Query.AskedFrom start kind searching.query) search.runOwn := by
  refine runOwn_stays (fun _ store asked => asked.withStore store) fun path declared query column name after asked
    found => ?_
  refine asked.joinPath found fun relations walked relation among join made => own join ?_
  exact ⟨path, declared, relations, walked, relation, among, made⟩

end Search

theorem NamedOverride.applyToQuery_asked {override : NamedOverride} {column keyword : String} {start query after : Query}
    {kind : Join → Prop} (asked : Query.AskedFrom start kind query)
    (applied : override.applyToQuery column keyword query = .ok after) : Query.AskedFrom start kind after := by
  obtain ⟨_, checked, applied⟩ := Except.bind_ok applied
  obtain ⟨operation, parameters⟩ := override
  cases operation
  case orderBy =>
    cases applied
    exact asked.orderBy _
  case orderByRaw =>
    obtain ⟨⟨answer, next⟩, called, same⟩ := Except.bind_ok applied
    cases same
    refine Query.call_asked asked (fun join made => ?_) called
    cases made
  -- All others are calls of a group's method on the root.
  all_goals
    obtain ⟨⟨method, arguments⟩, chosen, applied⟩ := Except.bind_ok applied
    cases method with
    | compare | raw =>
      obtain ⟨store, _, same⟩ := Except.bind_ok applied
      cases same
      exact asked.withStore store
    | member | orRaw =>
      dsimp only at applied
      split at applied <;> cases applied
    | orCompare | null | notNull => cases applied

namespace RowOrder

variable {order : RowOrder} {start : Query} {kind : Join → Prop}

/-- The scripts that an order may run. -/
inductive Runs (order : RowOrder) : List QueryStep → Prop where
  | whole {script : List QueryStep} (own : order.script = some script) : Runs order script
  | column {name : String} {script : String → List QueryStep} (own : order.overrides.lookup name = some (.callback script))
      (descending : Bool) : Runs order (script (directionWord descending))

/-- Whether a join is one of those that an order may ask for, along a declared path or in a script. -/
def Asks (order : RowOrder) (query : Query) (join : Join) : Prop :=
  order.paths.Asks order.registry query join ∨
    ∃ script, order.Runs script ∧ ∃ step ∈ script, step.join? query.adapter = some join

section Keeps
variable {holds : Query → Prop} (ordered : ∀ query term, holds query → holds (query.orderBy term))

include ordered

theorem addTerm_stays (config : Config) (column : String) (term : OrderTerm) :
    Action.Stays holds (addTerm config column term) := by
  unfold addTerm
  exact .read fun query held => .ask fun sql _ => .set (ordered query _ held)

variable (reached : ∀ path ∈ order.paths, ∀ query column name after, holds query →
  query.joinPath order.registry path column = .ok (name, after) → holds after)

include reached

theorem addPathTerm_stays {path column : String} (declared : path ∈ order.paths) (term : OrderTerm) :
    Action.Stays holds (order.addPathTerm path column term) := by
  unfold addPathTerm
  refine .read fun query held => .ask fun orderable _ => ?_
  cases orderable with
  | false => exact .pure _
  | true =>
    refine .ask fun reach joined => Action.Stays.bind (.set ?_) fun _ => addTerm_stays ordered _ _ _
    exact reached path declared _ _ _ _ held joined

/-- An order keeps what its terms, its joins along paths, its scripts and its overrides keep. -/
theorem run_stays (scripted : ∀ script, order.Runs script → Action.Stays holds (QueryStep.runAll script))
    (overridden : ∀ column override, order.overrides.lookup column = some (.named override) → ∀ keyword query after,
      holds query → override.applyToQuery column keyword query = .ok after → holds after) :
    Action.Stays holds order.run := by
  unfold run
  cases whole : order.script with
  | some script => exact scripted script (.whole whole)
  | none =>
    refine .ask fun term _ => ?_
    cases term with
    | none => exact .pure _
    | some term =>
      simp only [addRequested]
      cases found : order.overrides.lookup term.column with
      | some override =>
        cases override with
        | callback script => exact scripted _ (.column found term.descending)
        | named override =>
          exact .read fun query held => .ask fun next applied => .set (overridden _ override found _ _ _ held applied)
      | none =>
        dsimp only
        split
        · split
          · next path column split => exact addPathTerm_stays ordered reached (PathSet.split?_mem split) term
          · exact addTerm_stays ordered _ _ _
        · exact .pure _

end Keeps

theorem run_asked (own : ∀ join, order.Asks start join → kind join) :
    Action.Stays (Query.AskedFrom start kind) order.run := by
  refine run_stays (fun _ term asked => asked.orderBy term) ?_ ?_ ?_
  · intro path declared query column name after asked joined
    refine asked.joinPath joined fun relations walked relation among join made => own join (.inl ?_)
    exact ⟨path, declared, relations, walked, relation, among, made⟩
  · exact fun script runs =>
      QueryStep.runAll_asked fun step member join made => own join (.inr ⟨script, runs, step, member, made⟩)
  · exact fun column override _ keyword query after asked applied => override.applyToQuery_asked asked applied

end RowOrder

/-- A pass that reaches columns over relations, with the settings that it goes by. -/
inductive ColumnPass where
  | columnSearch (search : Search)
  | rowOrder (order : RowOrder)

namespace ColumnPass

/-- The query after a pass, whether the pass comes through or not. -/
def run (query : Query) : ColumnPass → Query
  | .columnSearch search => (search.runOwn ⟨query, false⟩).2.query
  | .rowOrder order => (order.run query).2

def runAll (query : Query) (passes : List ColumnPass) : Query := passes.foldl run query

/-- Whether a join is one of those that a pass may ask for. -/
def Asks (query : Query) (join : Join) : ColumnPass → Prop
  | .columnSearch search => search.paths.Asks search.registry query join
  | .rowOrder order => order.Asks query join

theorem run_asked {start query : Query} {kind : Join → Prop} {pass : ColumnPass}
    (own : ∀ join, pass.Asks start join → kind join) (asked : Query.AskedFrom start kind query) :
    Query.AskedFrom start kind (pass.run query) := by
  cases pass with
  | columnSearch search => exact search.runOwn_asked own ⟨query, false⟩ asked
  | rowOrder order => exact order.run_asked own query asked

/-- Passes join what one of them asks for, and nothing else. -/
theorem runAll_asked (start : Query) (passes : List ColumnPass) :
    Query.AskedFrom start (fun join => ∃ pass ∈ passes, pass.Asks start join) (runAll start passes) := by
  -- What a pass asks for depends on the statement at the start only, which passes leave alone.
  suffices kept : ∀ query kind, (∀ pass ∈ passes, ∀ join, pass.Asks start join → kind join) →
      Query.AskedFrom start kind query → Query.AskedFrom start kind (runAll query passes) from
    kept start _ (fun pass member join asks => ⟨pass, member, asks⟩) (.refl start)
  intro query kind own asked
  induction passes generalizing query with
  | nil => exact asked
  | cons pass rest ih =>
    exact ih _ (fun other member => own other (.tail _ member)) (run_asked (own pass (.head _)) asked)

end ColumnPass

namespace JoinRecord

variable {base : List String}

/-- The joins of a record under a name: those that it had, and if the name was not joined, the one that was asked for
first under it. -/
theorem named_askAll (record : JoinRecord) (asked : List Join) (name : String) :
    (record.askAll asked).joins.filter (·.name == name) = record.joins.filter (·.name == name) ++
      if name ∈ record.joined then [] else (asked.find? (·.name == name)).toList := by
  induction asked generalizing record with
  | nil => simp [askAll]
  | cons join rest ih =>
    have step : record.askAll (join :: rest) = (record.ask join).askAll rest := rfl
    rw [step, ih]
    by_cases same : join.name = name
    · subst same
      rw [if_pos joined_ask, List.find?_cons_of_pos (by simp)]
      by_cases known : join.name ∈ record.joined
      · simp [ask_known known, known]
      · simp [ask_new known, known]
    · rw [List.find?_cons_of_neg (by simp [same])]
      by_cases known : join.name ∈ record.joined
      · rw [ask_known known]
      · simp [ask_new known, same, Ne.symm same]

/-- A name that a record has a join under has no other one under it. -/
theorem Sound.named {record : JoinRecord} (sound : record.Sound base) {join : Join} (member : join ∈ record.joins) :
    record.joins.filter (·.name == join.name) = [join] := by
  have once := sound.once
  generalize record.joins = joins at member once
  induction joins with
  | nil => cases member
  | cons first rest ih =>
    obtain ⟨fresh, once⟩ := List.nodup_cons.mp once
    rcases List.mem_cons.mp member with rfl | later
    · have none : rest.filter (·.name == join.name) = [] := by
        rw [List.filter_eq_nil_iff]
        intro other among same
        exact fresh (eq_of_beq same ▸ List.mem_map_of_mem among)
      rw [List.filter_cons_of_pos (by simp), none]
    · have other : first.name ≠ join.name := fun same => fresh (same ▸ List.mem_map_of_mem later)
      rw [List.filter_cons_of_neg (by simp [other]), ih later once]

end JoinRecord

/-- The joins of a statement under the name of a table, those of its base first. -/
def Query.joinsNamed (query : Query) (name : String) : List Join :=
  query.base.joins.filter (·.name == name) ++ query.joins.filter (·.name == name)

/-- Whether the name of a joined table stands for one table of the statement, which is joined by the condition of the
join. -/
def Query.Knows (query : Query) (join : Join) : Prop :=
  query.mainTable? ≠ some join.name ∧ ∃ known, query.joinsNamed join.name = [known] ∧ known.on = join.on

theorem Query.joinsNamed_of_record {query after : Query} {asked : List Join} (base : after.base = query.base)
    (record : after.record = query.record.askAll asked) (name : String) :
    after.joinsNamed name = query.joinsNamed name ++
      if name ∈ query.joined then [] else (asked.find? (·.name == name)).toList := by
  have own : after.joins.filter (·.name == name) = _ := record ▸ JoinRecord.named_askAll query.record asked name
  rw [Query.joinsNamed, base, own, Query.joinsNamed, List.append_assoc]
  rfl

/-- Under a name that is not one of the base, a query has a single join, of the kind that was asked for, or nothing. -/
theorem Query.AskedFrom.named {base : Select} {dialect : Dialect} {oracle : Bool} {kind : Join → Prop} {query : Query}
    (asked : AskedFrom (Query.ofSelect base dialect oracle) kind query) {name : String} (apart : name ∉ base.tables) :
    (name ∈ query.joined ∧ ∃ join, query.joinsNamed name = [join] ∧ kind join ∧ join.name = name) ∨
      (name ∉ query.joined ∧ query.joinsNamed name = []) := by
  have sound : query.record.Sound (Query.joinedTables base) := by
    obtain ⟨joins, _, record⟩ := asked.record
    exact record ▸ (Query.ofSelect_sound base dialect oracle).askAll joins
  have own : query.joinsNamed name = query.joins.filter (·.name == name) := by
    have bare : base.joins.filter (·.name == name) = [] := by
      rw [List.filter_eq_nil_iff]
      intro other among same
      exact apart (List.mem_append_right _ (eq_of_beq same ▸ List.mem_map_of_mem among))
    rw [joinsNamed, asked.base, show (Query.ofSelect base dialect oracle).base = base from rfl, bare, List.nil_append]
  have joined : query.joined = Query.joinedTables base ++ query.joins.map Join.name := sound.joined
  rw [own, joined, List.mem_append]
  have foreign : name ∉ Query.joinedTables base := fun given =>
    apart (List.mem_append_right _ (List.mem_of_mem_filter given))
  by_cases there : name ∈ query.joins.map Join.name
  · obtain ⟨join, member, rfl⟩ := List.mem_map.mp there
    have made := (asked.joins member).resolve_left (List.not_mem_nil ·)
    exact .inl ⟨.inr there, join, sound.named member, made, rfl⟩
  · refine .inr ⟨fun either => either.elim foreign there, ?_⟩
    rw [List.filter_eq_nil_iff]
    intro other among same
    exact there (eq_of_beq same ▸ List.mem_map_of_mem among)

namespace ColumnPass

/-- Whether no other condition is there or asked for under the name of a join. -/
structure Unrivalled (start : Query) (passes : List ColumnPass) (asked : List Join) (join : Join) : Prop where
  base : join.name ∉ start.base.tables
  passes : ∀ pass ∈ passes, ∀ other, pass.Asks start other → other.name = join.name → other.on = join.on
  path : ∀ other ∈ asked, other.name = join.name → other.on = join.on

theorem runAll_named (query : Query) (passes : List ColumnPass) {name : String} (known : name ∈ query.joined) :
    (runAll query passes).joinsNamed name = query.joinsNamed name := by
  have asked := runAll_asked query passes
  obtain ⟨joins, _, record⟩ := asked.record
  rw [Query.joinsNamed_of_record asked.base record, if_pos known, List.append_nil]

/-- A column over relations is resolved by names. Under the name of each table on its path the statement has what it had
before, or if it had nothing, the first join on the path; later passes leave that alone. Where no other condition comes
under the name, this is the join of the relation itself. -/
theorem runAll_knows {base : Select} {dialect : Dialect} {oracle : Bool} {passes : List ColumnPass} {registry : Registry}
    {path column name : String} {joined : Query}
    (reached : (runAll (Query.ofSelect base dialect oracle) passes).joinPath registry path column = .ok (name, joined))
    (more : List ColumnPass) :
    let start := Query.ofSelect base dialect oracle
    let query := runAll start passes
    let final := runAll joined more
    ∃ relations, registry.walk start.mainTable? path = .ok relations ∧
      name = (relations.getLast?.map Relation.table).getD "" ++ "." ++ column ∧
      ∀ relation ∈ relations, ∀ join ∈ relation.joins start.adapter,
        let asked := relations.flatMap (Relation.joins start.adapter)
        final.joinsNamed join.name = query.joinsNamed join.name ++
          (if join.name ∈ query.joined then [] else (asked.find? (·.name == join.name)).toList) ∧
        (Unrivalled start passes asked join → final.Knows join) := by
  intro start query final
  have run := runAll_asked start passes
  obtain ⟨relations, walked, named, record⟩ := Query.joinPath_record reached
  have alike := Query.joinPath_alike reached
  rw [run.mainTable] at walked
  rw [run.adapter] at record
  refine ⟨relations, walked, named, fun relation among join made => ?_⟩
  intro asked
  have member : join ∈ asked := List.mem_flatMap.mpr ⟨relation, among, made⟩
  have present : join.name ∈ joined.joined := by
    change _ ∈ joined.record.joined
    rw [record]
    exact JoinRecord.joined_askAll member
  have known : final.joinsNamed join.name = query.joinsNamed join.name ++
      if join.name ∈ query.joined then [] else (asked.find? (·.name == join.name)).toList := by
    rw [runAll_named joined more present, Query.joinsNamed_of_record alike.base record]
  refine ⟨known, fun unrivalled => ⟨?_, ?_⟩⟩
  · have main := ((runAll_asked joined more).base.trans alike.base).trans run.base
    rw [Query.mainTable?, main]
    exact fun same => unrivalled.base (List.mem_append_left _ (Option.mem_toList.mpr same))
  · rw [known]
    obtain ⟨there, other, single, ⟨pass, taken, asks⟩, same⟩ | ⟨absent, none⟩ := run.named unrivalled.base
    · refine ⟨other, ?_, unrivalled.passes pass taken other asks same⟩
      rw [single, if_pos there, List.append_nil]
    · have filled : (asked.find? (·.name == join.name)).isSome := List.find?_isSome.mpr ⟨join, member, by simp⟩
      obtain ⟨first, found⟩ := Option.isSome_iff_exists.mp filled
      have same := List.find?_some found
      refine ⟨first, ?_, unrivalled.path first (List.mem_of_find?_eq_some found) (eq_of_beq same)⟩
      rw [none, if_neg absent, found]
      rfl

private def orders : Select := { Select.empty with source := some (.table ⟨"orders", none⟩) }

private def billing : Relation := .belongsTo "customers" "orders.billing_id" "customers.id"

private def shipping : Relation := .belongsTo "customers" "orders.shipping_id" "customers.id"

private def customers : Registry := ⟨[("orders", [("billing", billing), ("shipping", shipping)])]⟩

private def billedTo : Search where
  request := ⟨.object [("columns", .list [.object [("data", .text "billing.name"), ("searchable", .bool true),
    ("search", .object [("value", .text "ann")])]])]⟩
  config := {}
  registry := customers
  paths := PathSet.expand ["billing"]
  overrides := []
  excludes _ := false

private theorem billedTo_asks {start : Query} (main : start.mainTable? = some "orders") {join : Join}
    (asks : billedTo.paths.Asks customers start join) : join ∈ billing.joins start.adapter := by
  obtain ⟨path, declared, relations, walked, relation, among, made⟩ := asks
  have only : path ∈ ["billing"] := declared
  obtain rfl := List.mem_singleton.mp only
  rw [main] at walked
  cases walked
  obtain rfl := List.mem_singleton.mp among
  exact made

/-- After a search for the name of a billing customer, that of a shipping customer is the one of the billing customer. -/
theorem runAll_knows_billing :
    let start := Query.ofSelect orders .sqlite false
    let query := runAll start [.columnSearch billedTo]
    ∃ again other,
      query.joinPath customers "billing" "name" = .ok ("customers.name", again) ∧
      query.joinPath customers "shipping" "name" = .ok ("customers.name", other) ∧
      (∀ join ∈ billing.joins start.adapter, again.Knows join) ∧
      ∀ join ∈ shipping.joins start.adapter, ¬ other.Knows join := by
  intro start query
  have run := runAll_asked start [.columnSearch billedTo]
  have reached (name : String) (relation : Relation) (walked : customers.walk (some "orders") name = .ok [relation]) :
      query.joinPath customers name "name" =
        .ok (relation.table ++ "." ++ "name", query.joinRelation "name" relation) := by
    rw [Query.joinPath, run.mainTable]
    change customers.walk (some "orders") name >>= _ = _
    rw [walked]
    rfl
  have searched (pass : ColumnPass) (taken : pass ∈ [.columnSearch billedTo]) (join : Join) (asks : pass.Asks start join) :
      join ∈ billing.joins start.adapter := by
    obtain rfl := List.mem_singleton.mp taken
    exact billedTo_asks rfl asks
  have single (join other : Join) (one : join ∈ billing.joins start.adapter)
      (two : other ∈ billing.joins start.adapter) : other.on = join.on := by
    rw [List.mem_singleton.mp one, List.mem_singleton.mp two]
  have again := reached "billing" billing rfl
  have other := reached "shipping" shipping rfl
  refine ⟨_, _, again, other, fun join made => ?_, fun join made => ?_⟩
  · obtain ⟨relations, walked, _, knows⟩ := runAll_knows again []
    cases walked
    refine (knows billing (.head _) join made).2 ⟨?_, ?_, ?_⟩
    · rw [List.mem_singleton.mp made]
      decide
    · exact fun pass taken other asks _ => single join other made (searched pass taken other asks)
    · exact fun other asked _ => single join other made (by simpa using asked)
  · obtain ⟨relations, walked, _, knows⟩ := runAll_knows other []
    cases walked
    have shown : join.name = "customers" := by rw [List.mem_singleton.mp made]; rfl
    have there : "customers" ∈ query.joined := by decide +kernel
    have named := (knows shipping (.head _) join made).1
    rw [shown, if_pos there, List.append_nil] at named
    rintro ⟨_, best, found, same⟩
    rw [shown] at found
    obtain ⟨_, known, held, ⟨pass, taken, asks⟩, _⟩ | ⟨absent, _⟩ :=
      run.named (show "customers" ∉ orders.tables by decide)
    · obtain rfl := List.singleton_inj.mp (found.symm.trans (named.trans held))
      rw [List.mem_singleton.mp made, List.mem_singleton.mp (searched pass taken best asks)] at same
      injection same with atom
      injection atom with left
      revert left
      decide +kernel
    · exact absent there

end ColumnPass

end DataGrid
