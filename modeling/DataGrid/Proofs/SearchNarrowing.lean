import DataGrid.Proofs.GlobalSearch
import DataGrid.Proofs.RawOperand
import DataGrid.Proofs.UniformGroups

/-! Which rows the search over all columns leaves. A row is returned when it was before and, for each term for which
some column asks for something, one of the columns matches. Raw text in the script of a column with an `or` that
stands open is what this does not hold for. -/

namespace DataGrid

open Sql

/-- A query whose root holds conditions joined by `and`, none of which comes apart. -/
structure Query.Orderly (query : Query) (reader : Reader) (held : Forest) : Prop where
  formed : query.Formed
  root : query.store.Unfolds (fun _ => True) query.root held
  joined : Uniform .and held
  apart : ∀ entry ∈ held, entry.2.Guarded reader
  steady : ∀ entry ∈ held.clauses, entry.2.Steady reader
  base : ∀ condition ∈ query.base.filter, condition.Safe reader

namespace Search

variable {search : Search} {reader : Reader} {query : Query} {before after : Searching} {held : Forest}

/-- Whether what the overrides that take part in a search ask for is of a kind. -/
def OverridesAsk (search : Search) (query : Query) (kind : PredicateTree → Prop) : Prop :=
  ∀ word columns, search.request.keyword = .ok word → search.request.columns = .ok columns →
    ∀ term ∈ search.config.terms word, ∀ column ∈ (columns.filter (·.searchable)).filter search.takes,
      (search.overrides.lookup column.name).isSome →
        ∀ tree, search.predicate query term column = .ok tree → kind tree

/-- Whether a condition narrows another one down by terms: for each term for which some column asks for something,
what one of its columns asks for holds. -/
def Narrows (reader : Reader) (terms : List (List PredicateTree)) (old new : Option Cond) : Prop :=
  ∀ assignment, Accepts reader assignment new ↔ Accepts reader assignment old ∧
    ∀ trees ∈ terms, (∃ tree ∈ trees, tree.hollow = false) →
      ∃ tree ∈ trees, tree.value? reader assignment = some .yes

section Tests
variable {config : Config} {column : Column} {name keyword : String} {table : Option String} {condition : Cond}

private theorem like_test (config : Config) (adapter : Adapter) (expression : Expr) (pattern : String) :
    (Cond.atom (like config adapter expression pattern)).Test := trivial

private theorem columnTest_safe (made : columnTest config query column name keyword table = .ok condition) :
    condition.Safe reader := by
  unfold columnTest at made
  split at made
  · cases made
    exact (show (Cond.atom (plainTest config query name keyword table)).Test from trivial).safe reader
  · obtain ⟨field, _, made⟩ := Except.bind_ok made
    have first := (like_test config query.adapter field (config.pattern keyword)).safe reader
    split at made
    · cases made
      exact first
    · obtain ⟨other, _, same⟩ := Except.bind_ok made
      cases same
      have second := (like_test config query.adapter (query.adapter.column other) (config.pattern keyword)).safe reader
      refine ⟨Cond.join_whole (by simp) ?_ (by simp), Cond.steady_group _⟩
      simpa using ⟨first.1, second.1⟩

private theorem automaticTest_safe (made : search.automaticTest query column keyword = .ok condition) :
    condition.Safe reader := by
  unfold automaticTest at made
  split at made
  · obtain ⟨relations, _, made⟩ := Except.bind_ok made
    cases relations with
    | nil => cases made
    | cons first rest =>
      obtain ⟨inner, _, same⟩ := Except.bind_ok made
      cases same
      cases rest <;> exact ⟨trivial, trivial⟩
  · exact columnTest_safe made

end Tests

private theorem alternatives_guarded {word term : String} {trees : List PredicateTree}
    (guarded : search.OverridesAsk query (·.Guarded reader)) (asked : search.request.keyword = .ok word)
    (member : term ∈ search.config.terms word) (read : search.alternatives query term = .ok trees) :
    ∀ tree ∈ trees, tree.Guarded reader := by
  intro tree present
  obtain ⟨columns, listed, read⟩ := Except.bind_ok read
  obtain ⟨column, among, made⟩ := Except.mapM_mem read tree present
  cases found : search.overrides.lookup column.name with
  | some override => exact guarded word columns asked listed term member column among (by simp [found]) tree made
  | none =>
    simp only [predicate, found] at made
    obtain ⟨condition, tested, same⟩ := Except.bind_ok made
    cases same
    exact (automaticTest_safe tested).1

private theorem termGroup_guarded {trees : List PredicateTree} (each : ∀ tree ∈ trees, tree.Guarded reader) :
    (termGroup trees).2.Guarded reader := by
  apply Forest.guarded_or (uniform_map .or _ trees)
  intro entry member
  obtain ⟨tree, present, rfl⟩ := List.mem_map.mp member
  exact each tree present

private theorem termGroup_yes {assignment : Assignment} (trees : List PredicateTree) :
    (∀ value ∈ (termGroup trees).2.value? reader assignment, value = .yes) ↔
      ((∃ tree ∈ trees, tree.hollow = false) → ∃ tree ∈ trees, tree.value? reader assignment = some .yes) := by
  rw [termGroup, Forest.alternatives_yes (uniform_map .or _ trees)]
  simp

private theorem steady_terms (steady : ∀ entry ∈ held.clauses, entry.2.Steady reader)
    (terms : List (List PredicateTree)) :
    ∀ entry ∈ Forest.clauses (held ++ terms.map termGroup), entry.2.Steady reader := by
  rintro ⟨junction, clause⟩ member
  rw [Forest.clauses_append, List.mem_append] at member
  rcases member with old | added
  · exact steady _ old
  · obtain ⟨tree, present, made⟩ := Forest.mem_clauses.mp added
    obtain ⟨trees, _, pair⟩ := List.mem_map.mp present
    cases pair
    obtain ⟨inner, _, rfl⟩ := Option.map_eq_some_iff.mp made
    exact inner.enclosed_steady

/-- The groups of the terms narrow a query down, where what its columns ask for does not come apart. -/
theorem termGroups_narrow {terms : List (List PredicateTree)} {old new : Option Cond} {later : Query}
    (orderly : query.Orderly reader held) (each : ∀ trees ∈ terms, ∀ tree ∈ trees, tree.Guarded reader)
    (same : later = { query with store := later.store })
    (appended : Store.Appends query.root query.store later.store (terms.map termGroup))
    (was : query.condition = .ok old) (found : later.condition = .ok new) : Narrows reader terms old new := by
  have grown := appended.unfolds orderly.formed.closed orderly.root
  have sameRoot : later.root = query.root := by rw [same]
  have sameBase : later.base = query.base := by rw [same]
  have apart : ∀ entry ∈ held ++ terms.map termGroup, entry.2.Guarded reader := by
    intro entry member
    rcases List.mem_append.mp member with old | added
    · exact orderly.apart entry old
    · obtain ⟨trees, present, rfl⟩ := List.mem_map.mp added
      exact termGroup_guarded (each trees present)
  have steady := steady_terms orderly.steady terms
  have joined : Uniform .and (held ++ terms.map termGroup) := orderly.joined.append (uniform_map .and _ terms)
  intro assignment
  rw [Query.condition_eq found (sameRoot ▸ grown), Query.condition_eq was orderly.root, sameBase,
    Forest.accepts orderly.base (Forest.guarded_steady apart steady) fun _ clause made =>
      Store.fold_steady made steady,
    Forest.accepts orderly.base (Forest.guarded_steady orderly.apart orderly.steady) fun _ clause made =>
      Store.fold_steady made orderly.steady,
    Forest.passes_and joined, Forest.passes_and orderly.joined, and_assoc]
  refine and_congr_right fun _ => ?_
  simp only [List.forall_mem_append, List.forall_mem_map, termGroup_yes]

private theorem alternatives_narrow {word : String} {terms : List (List PredicateTree)} {old new : Option Cond}
    (orderly : before.query.Orderly reader held) (guarded : search.OverridesAsk before.query (·.Guarded reader))
    (asked : search.request.keyword = .ok word)
    (read : (search.config.terms word).mapM (search.alternatives before.query) = .ok terms)
    (appended : Searching.Appends before.query.root before after (terms.map termGroup))
    (was : before.query.condition = .ok old) (found : after.query.condition = .ok new) :
    Narrows reader terms old new := by
  refine termGroups_narrow orderly ?_ appended.query appended.store was found
  intro trees present
  obtain ⟨term, among, made⟩ := Except.mapM_mem read trees present
  exact alternatives_guarded guarded asked among made

/-- Whether every search narrows every query down, as long as a given text is the only raw one in its overrides. -/
def NarrowsWith (reader : Reader) (content : Fragment) : Prop :=
  ∀ (search : Search) (before after : Searching) (held : Forest) (word : String) (terms : List (List PredicateTree))
    (old new : Option Cond), search.runGlobal before = (.ok ⟨⟩, after) → before.query.Orderly reader held →
    search.OverridesAsk before.query (·.Each (Beside content)) → search.request.keyword = .ok word →
    (search.config.terms word).mapM (search.alternatives before.query) = .ok terms →
    before.query.condition = .ok old → after.query.condition = .ok new → Narrows reader terms old new

private theorem searchAll_eq {columns : List Column} {keyword : String} {result : PUnit}
    (listed : search.request.columns = .ok columns)
    (ran : (columns.filter (·.searchable)).forM (search.addAlternative before.query.store.size keyword)
      (before.withStore (before.query.store.nested before.query.root .and).2) = (.ok result, after)) :
    search.searchAll keyword before = (.ok result, after) := by
  rw [searchAll]
  refine (Action.bind_eq rfl).trans ((Action.bind_eq rfl).trans ?_)
  rw [listed]
  exact (Action.bind_eq rfl).trans ran

section Raw
variable {sql bindings : Value} {content : Fragment}

private def script (sql bindings : Value) : List GroupStep :=
  [.call .null [.expression (.literal "tenant")], .call .raw [.value sql, .value bindings]]

private def besideRaw (sql bindings : Value) : Search where
  request := ⟨.object [("columns", .list [.object [("data", .text "a"), ("searchable", .bool true)]]),
    ("search", .object [("value", .text "x")])]⟩
  config := {}
  registry := {}
  paths := PathSet.expand []
  overrides := [("a", .callback fun _ => script sql bindings)]
  excludes _ := false

private def sole : Column := ⟨"a", "a", true, true, .null, .null, "", false⟩

private def searching (groups : List (List (Junction × Entry))) (applied : Bool) : Searching :=
  ⟨{ Query.ofSelect Select.empty .sqlite false with store := ⟨groups⟩ }, applied⟩

private def scripted (content : Fragment) : List (Junction × Entry) :=
  [(.and, .cond neighbour), (.and, .cond (.atom (.fragment content)))]

private def asked (content : Fragment) : PredicateTree :=
  .group [(.and, .cond neighbour), (.and, .cond (.atom (.fragment content)))]

private theorem raw_entry (made : rawOf sql bindings = .ok (.cond (.atom (.fragment content)))) (adapter : Adapter) :
    GroupMethod.raw.entry adapter [.value sql, .value bindings] =
      .ok (.cond (.atom (.fragment content)), .text "and") := by
  change (rawOf sql bindings >>= fun entry => Except.ok (entry, Value.text "and")) = _
  rw [made]
  rfl

private theorem script_runs (made : rawOf sql bindings = .ok (.cond (.atom (.fragment content)))) :
    GroupStep.runAll (searching [] false).query.adapter 2 (script sql bindings) ⟨[[(.and, .group 1)], [], []]⟩ =
      (.ok (), ⟨[[(.and, .group 1)], [], scripted content]⟩) := by
  have first (store : Store) :
      store.call (searching [] false).query.adapter 2 .null [.expression (.literal "tenant")] =
        .ok (store.add 2 .and (.cond neighbour)) := rfl
  have second (store : Store) :
      store.call (searching [] false).query.adapter 2 .raw [.value sql, .value bindings] =
        .ok (store.add 2 .and (.cond (.atom (.fragment content)))) := by
    rw [Store.call, raw_entry made]
    rfl
  simp only [script, GroupStep.runAll, GroupStep.run, first, second]
  rfl

private theorem besideRaw_runs (made : rawOf sql bindings = .ok (.cond (.atom (.fragment content)))) :
    (besideRaw sql bindings).runGlobal (searching [[]] false) =
      (.ok ⟨⟩, searching [[(.and, .group 1)], [(.or, .group 2)], scripted content] true) := by
  have added : addScript 1 .or (script sql bindings) (searching [[(.and, .group 1)], []] false) =
      (.ok (), searching [[(.and, .group 1)], [(.or, .group 2)], scripted content] false) := by
    refine (Action.bind_eq rfl).trans ((Action.bind_eq rfl).trans ?_)
    exact (Action.bind_eq (Searching.onStore_eq (script_runs made))).trans rfl
  have column : (besideRaw sql bindings).addAlternative 1 "x" sole
      (searching [[(.and, .group 1)], []] false) =
      (.ok (), searching [[(.and, .group 1)], [(.or, .group 2)], scripted content] true) :=
    (Action.bind_eq added).trans rfl
  have listed : (besideRaw sql bindings).request.columns = .ok [sole] := rfl
  have term : (besideRaw sql bindings).searchAll "x" (searching [[]] false) =
      (.ok (), searching [[(.and, .group 1)], [(.or, .group 2)], scripted content] true) :=
    searchAll_eq listed ((Action.bind_eq column).trans rfl)
  exact (Action.bind_eq rfl).trans ((Action.bind_eq term).trans rfl)

private theorem besideRaw_asks (made : rawOf sql bindings = .ok (.cond (.atom (.fragment content)))) (query : Query)
    (keyword : String) : (besideRaw sql bindings).predicate query keyword sole = .ok (asked content) := by
  have raw : GroupMethod.raw.addition query.adapter [.value sql, .value bindings] =
      .ok (.and, .cond (.atom (.fragment content))) := by
    rw [GroupMethod.addition, raw_entry made]
    rfl
  have found : (besideRaw sql bindings).overrides.lookup sole.name =
      some (.callback fun _ => script sql bindings) := rfl
  simp only [predicate, found, script, GroupStep.additions, GroupStep.addition, raw]
  rfl

private theorem besideRaw_alternatives (made : rawOf sql bindings = .ok (.cond (.atom (.fragment content))))
    (query : Query) (keyword : String) :
    (besideRaw sql bindings).alternatives query keyword = .ok [asked content] := by
  have single : (besideRaw sql bindings).alternatives query keyword =
      [sole].mapM ((besideRaw sql bindings).predicate query keyword) := rfl
  rw [single, List.mapM_cons, besideRaw_asks made]
  rfl

private theorem fresh_orderly : (searching [[]] false).query.Orderly reader [] where
  formed := Query.formed_ofSelect Select.empty .sqlite false
  root := .intro trivial .nil
  joined := by rintro _ ⟨⟩
  apart := by rintro _ ⟨⟩
  steady := by rintro _ ⟨⟩
  base := by rintro _ ⟨⟩

/-- The rows that the statement returns are not those that the script asks for. -/
private theorem asked_passes (parses : Parses .disjunction (reader.cut content))
    (opened : openOr 0 (reader.cut content) = true) :
    Accepts reader onlyTexts (some (.group (.group (.joined .and [neighbour, .atom (.fragment content)])))) := by
  intro _ found
  cases found
  have inner := Reads.enclosed (comes_apart parses opened)
  have outer := Reads.enclosed (inner.loosen .disjunction)
  rw [Cond.tokens_group, Cond.tokens_group]
  exact outer.loosen .disjunction

private theorem asked_fails : (asked content).value? reader onlyTexts = some .no := rfl

/-- Every search narrows every query down, with some raw text in its overrides, exactly when the database finds no `OR`
in the text that stands outside of all parentheses. -/
theorem narrowsWith_iff (made : rawOf sql bindings = .ok (.cond (.atom (.fragment content))))
    (parses : Parses .disjunction (reader.cut content)) :
    NarrowsWith reader content ↔ openOr 0 (reader.cut content) = false := by
  constructor
  · intro narrows
    by_contra opened
    rw [Bool.not_eq_false] at opened
    have asks : (besideRaw sql bindings).OverridesAsk (searching [[]] false).query (·.Each (Beside content)) := by
      intro word columns _ listed term _ column member _ tree asks
      have single : columns = [sole] := (Except.ok.inj listed).symm
      have held : column ∈ columns := List.mem_of_mem_filter (List.mem_of_mem_filter member)
      rw [single] at held
      cases List.mem_singleton.mp held
      rw [besideRaw_asks made] at asks
      cases asks
      exact ⟨.inl trivial, .inr rfl, trivial⟩
    have terms : ((besideRaw sql bindings).config.terms "x").mapM
        ((besideRaw sql bindings).alternatives (searching [[]] false).query) = .ok [[asked content]] := by
      have one : (besideRaw sql bindings).config.terms "x" = ["x"] := rfl
      rw [one, List.mapM_cons, besideRaw_alternatives made]
      rfl
    have narrowed := narrows _ _ _ [] "x" _ none _ (besideRaw_runs made) fresh_orderly asks rfl terms rfl rfl onlyTexts
    -- The statement accepts a row for which only the raw text is true, while the script asks for its test too.
    obtain ⟨_, matched⟩ := narrowed.mp (asked_passes parses opened)
    obtain ⟨tree, member, yes⟩ := matched _ (.head _) ⟨_, .head _, rfl⟩
    rw [List.mem_singleton.mp member, asked_fails] at yes
    cases yes
  · intro shut search before after held word terms old new ran orderly asks keyword read was found
    obtain ⟨_, _, known, same, appended⟩ := runGlobal_appends orderly.formed.root ran
    cases keyword.symm.trans known
    cases read.symm.trans same
    refine alternatives_narrow orderly ?_ keyword read appended was found
    intro word columns asked listed term among column member overridden tree made
    have each := asks word columns asked listed term among column member overridden tree made
    exact (each.guarded (beside_safe parses shut)).1

end Raw

/-- The global search narrows a query down term by term. When it runs through on a query whose root conditions are
joined by `and`, nothing of the query changes but its groups, of which the root gets one for each term; and a row is
returned afterwards exactly when it was before and, for each term for which some column that takes part asks for
something, what one of these columns asks for holds. What the overrides ask for has to be kept apart for this, and it
does not hold in general for raw text with an open `OR` in them. -/
theorem runGlobal_accepts {result : PUnit} (ran : search.runGlobal before = (.ok result, after))
    (orderly : before.query.Orderly reader held) :
    after.query = { before.query with store := after.query.store } ∧
      (∃ word terms, search.request.keyword = .ok word ∧
        (search.config.terms word).mapM (search.alternatives before.query) = .ok terms ∧
        Store.Appends before.query.root before.query.store after.query.store (terms.map termGroup) ∧
        (search.OverridesAsk before.query (·.Guarded reader) → ∀ old new, before.query.condition = .ok old →
          after.query.condition = .ok new → Narrows reader terms old new)) ∧
      ∀ sql bindings content, rawOf sql bindings = .ok (.cond (.atom (.fragment content))) →
        Parses .disjunction (reader.cut content) →
        (NarrowsWith reader content ↔ openOr 0 (reader.cut content) = false) := by
  obtain ⟨word, terms, asked, read, appended⟩ := runGlobal_appends orderly.formed.root ran
  refine ⟨appended.query, ⟨word, terms, asked, read, appended.store, ?_⟩, fun _ _ _ made => narrowsWith_iff made⟩
  exact fun guarded _ _ was found => alternatives_narrow orderly guarded asked read appended was found

private def twoWords : Search where
  request := ⟨.object [("search", .object [("value", .text "x y")]),
    ("columns", .list [.object [("data", .text "a"), ("searchable", .bool true)],
      .object [("data", .text "b"), ("searchable", .bool true)]])]⟩
  config := {}
  registry := {}
  paths := PathSet.expand []
  overrides := [("a", .callback fun _ => [.call .null [.expression (.literal "a")]])]
  excludes _ := false

private def tenantRows : Searching := searching [[(.and, .cond neighbour)]] false

private theorem tenantRows_orderly (reader : Reader) :
    tenantRows.query.Orderly reader [(.and, .cond neighbour)] where
  formed := by
    refine ⟨?_, Nat.one_pos⟩
    exact (Query.formed_ofSelect Select.empty .sqlite false).closed.add 0 .and (by simp)
  root := .intro trivial (.cond _ _ .nil)
  joined := List.forall_mem_singleton.mpr rfl
  apart := List.forall_mem_singleton.mpr (neighbour_safe reader).1
  steady := List.forall_mem_singleton.mpr (neighbour_safe reader).2
  base := by rintro _ ⟨⟩

private theorem twoWords_asks : twoWords.OverridesAsk tenantRows.query (·.Guarded reader) := by
  intro word columns _ listed term _ column member overridden tree asks
  have pair : columns = [sole, { sole with name := "b", dataKey := "b" }] := (Except.ok.inj listed).symm
  have held : column ∈ columns := List.mem_of_mem_filter (List.mem_of_mem_filter member)
  rw [pair] at held
  rcases List.mem_cons.mp held with rfl | second
  · have single : tree = .group [(.and, .cond (.atom (.isNull (.literal "a") false)))] := (Except.ok.inj asks).symm
    have each : tree.Each Cond.Test := single ▸ ⟨trivial, trivial⟩
    exact (each.guarded fun _ structured => structured.safe reader).1
  · cases List.mem_singleton.mp second
    cases overridden

theorem runGlobal_accepts_words :
    let reader : Reader := ⟨.sqlite, fun _ => []⟩
    ∃ terms after new, terms.length = 2 ∧ twoWords.runGlobal tenantRows = (.ok ⟨⟩, after) ∧
      after.query.condition = .ok new ∧ Narrows reader terms (some neighbour) new := by
  intro reader
  have done : (twoWords.runGlobal tenantRows).1.isOk = true := by decide +kernel
  have compiled : (twoWords.runGlobal tenantRows).2.query.condition.isOk = true := by decide +kernel
  obtain ⟨_, ran⟩ := Action.ran_of_isOk done
  obtain ⟨new, found⟩ := Except.ok_of_isOk compiled
  obtain ⟨_, ⟨word, terms, asked, read, _, narrows⟩, _⟩ := runGlobal_accepts ran (tenantRows_orderly reader)
  cases asked
  refine ⟨terms, _, new, ?_, ran, found, narrows twoWords_asks _ _ rfl found⟩
  cases read
  rfl

end Search

end DataGrid
