import DataGrid.Proofs.FilterPasses
import DataGrid.Proofs.PartReading

/-! What the passes of a refresh ask of a row together. All of them write into one group, so each of them counts on
its own only where no `or` stands behind the first word of the group, or where one of them alone wrote to it. -/

namespace DataGrid

open Sql

/-- The words that stand before what a group holds. -/
def Forest.words (forest : Forest) : List Junction := forest.clauses.map Prod.fst

/-- Whether raw texts come apart neither within a group nor beside the base condition. -/
structure Sheltered (reader : Reader) (base : Option Cond) (forest : Forest) : Prop where
  safe : ∀ condition ∈ base, condition.Safe reader
  guarded : forest.Guarded reader
  steady : base.isSome → ∀ clause ∈ forest.clause?, clause.Steady reader

/-- Whether a condition asks a row for the base condition and for each part on its own. -/
def Composes (reader : Reader) (base : Option Cond) (parts : List Forest) (filter : Option Cond) : Prop :=
  ∀ assignment, Accepts reader assignment filter ↔
    Accepts reader assignment base ∧ ∀ part ∈ parts, part.Passes reader assignment

/-- Whether queries whose root group consists of parts with these words ask for each part on its own. -/
def KeptApart (words : List (List Junction)) : Prop :=
  ∀ (reader : Reader) (query : Query) (parts : List Forest) (filter : Option Cond),
    query.store.Unfolds (fun _ => True) query.root parts.flatten → parts.map Forest.words = words →
    Sheltered reader query.base.filter parts.flatten → query.condition = .ok filter →
    Composes reader query.base.filter parts filter

section Parts
variable {reader : Reader} {assignment : Assignment} {parts : List Forest}

private theorem values_flatten :
    Forest.values reader assignment parts.flatten = (parts.map (Forest.values reader assignment)).flatten := by
  induction parts with
  | nil => rfl
  | cons part rest ih => rw [List.flatten_cons, Forest.values_append, ih, List.map_cons, List.flatten_cons]

private theorem values_words (forest : Forest) :
    (forest.values reader assignment).map Prod.fst = forest.words := by
  rw [forest.values_clauses, List.map_map]
  rfl

private theorem ReadApart.passes (apart : ReadApart (parts.map Forest.words)) :
    Forest.Passes parts.flatten reader assignment ↔ ∀ part ∈ parts, part.Passes reader assignment := by
  have whole := apart (parts.map (Forest.values reader assignment)) (by simp [values_words])
  rw [Forest.Passes, Forest.value?, values_flatten, whole, List.forall_mem_map]
  rfl

/-- A test that stands for a value. -/
private def standIn : Truth → Cond
  | .no => .atom (.isNull (.literal "no") false)
  | .unknown => .atom (.isNull (.literal "unknown") false)
  | .yes => .atom (.isNull (.literal "yes") false)

private def standIns : Assignment where
  predicate
    | .test (.isNull (.literal "no") _) => .no
    | .test (.isNull (.literal "yes") _) => .yes
    | _ => .unknown
  text _ := .unknown

private theorem standIn_value (reader : Reader) (value : Truth) : (standIn value).value reader standIns = value := by
  cases value <;> rfl

private theorem standIn_test (value : Truth) : (standIn value).Test := by
  cases value <;> trivial

private def standInForest (values : List (Junction × Truth)) : Forest :=
  values.map fun entry => (entry.1, .cond (standIn entry.2))

private theorem standInForest_values (values : List (Junction × Truth)) :
    (standInForest values).values reader standIns = values := by
  induction values with
  | nil => rfl
  | cons entry rest ih =>
    change (entry.1, (standIn entry.2).value reader standIns) :: (standInForest rest).values reader standIns = _
    rw [standIn_value, ih]

private theorem standInForest_words (values : List (Junction × Truth)) :
    (standInForest values).words = values.map Prod.fst := by
  induction values with
  | nil => rfl
  | cons entry rest ih => exact congrArg (entry.1 :: ·) ih

private theorem standInForest_each (values : List (Junction × Truth)) : (standInForest values).Each Cond.Test := by
  apply Forest.each_iff.mpr
  intro entry member
  obtain ⟨_, _, rfl⟩ := List.mem_map.mp member
  exact standIn_test _

private theorem standInForest_height (values : List (Junction × Truth)) : (standInForest values).height = 1 := by
  induction values with
  | nil => rfl
  | cons entry rest ih =>
    change max (0 + 1) (standInForest rest).height = 1
    rw [ih]
    rfl

private def standInQuery (values : List (Junction × Truth)) : Query :=
  { Query.ofSelect Select.empty .sqlite false with
    store := ⟨[values.map fun entry => (entry.1, .cond (standIn entry.2))]⟩ }

private theorem standInQuery_unfolds (values : List (Junction × Truth)) :
    (standInQuery values).store.Unfolds (fun _ => True) (standInQuery values).root (standInForest values) := by
  refine .intro trivial ?_
  change Store.Shows _ _ (values.map fun entry => (entry.1, Entry.cond (standIn entry.2))) _
  generalize (standInQuery values).store = store
  induction values with
  | nil => exact .nil
  | cons entry rest ih => exact .cond entry.1 (standIn entry.2) ih

private theorem standInQuery_condition (values : List (Junction × Truth)) :
    (standInQuery values).condition = .ok (Clause.filter? none (standInForest values).clause?) := by
  have each := (standInForest_each values).weaken fun _ _ => trivial
  rcases (standInQuery_unfolds values).clause with done | ⟨_, deep⟩ | ⟨_, settled⟩
  · rw [Query.condition, done]
    rfl
  · rw [standInForest_height] at deep
    simp [Store.depth, standInQuery, stepLimit] at deep
  · exact absurd each settled

/-- Queries ask for each of their parts on its own exactly when the words of the parts keep them apart. -/
theorem keptApart_iff (words : List (List Junction)) : KeptApart words ↔ Straight words := by
  rw [← readApart_iff]
  constructor
  · rintro kept values rfl
    -- Tests stand for the values, so that any lists of values are the parts of some query.
    let reader : Reader := ⟨.sqlite, fun _ => []⟩
    have whole : (values.map standInForest).flatten = standInForest values.flatten := by
      rw [standInForest, List.map_flatten]
      rfl
    have sheltered : Sheltered reader none (standInForest values.flatten) := by
      refine ⟨by simp, ?_, by simp⟩
      exact (standInForest_each _).apart fun _ structured => structured.safe reader
    have composed := kept reader (standInQuery values.flatten) (values.map standInForest) _
      (whole ▸ standInQuery_unfolds _) (by simp [← standInForest_words]) (whole ▸ sheltered)
      (standInQuery_condition _) standIns
    change Accepts _ _ (Clause.filter? none _) ↔ Accepts _ _ none ∧ _ at composed
    rw [Forest.accepts sheltered.safe sheltered.guarded sheltered.steady, and_congr_right_iff] at composed
    have same := composed (by simp [Accepts])
    simpa [Forest.Passes, Forest.value?, standInForest_values] using same
  · rintro apart reader query parts filter unfolds rfl sheltered read assignment
    rw [Query.condition_eq read unfolds, Forest.accepts sheltered.safe sheltered.guarded sheltered.steady,
      apart.passes]

end Parts

theorem Query.composes {reader : Reader} {query : Query} {parts : List Forest} {filter : Option Cond}
    (unfolds : query.store.Unfolds (fun _ => True) query.root parts.flatten)
    (sheltered : Sheltered reader query.base.filter parts.flatten)
    (straight : Straight (parts.map Forest.words)) (read : query.condition = .ok filter) :
    Composes reader query.base.filter parts filter :=
  (keptApart_iff _).mpr straight reader query parts filter unfolds rfl sheltered read

theorem Uniform.straight {parts : List Forest} (uniform : ∀ part ∈ parts, Uniform .and part) :
    Straight (parts.map Forest.words) := by
  refine .inr ?_
  intro word member
  obtain ⟨words, among, present⟩ := List.mem_flatten.mp (List.mem_of_mem_tail member)
  obtain ⟨part, held, rfl⟩ := List.mem_map.mp among
  obtain ⟨⟨junction, clause⟩, found, rfl⟩ := List.mem_map.mp present
  obtain ⟨tree, entry, _⟩ := Forest.mem_clauses.mp found
  exact uniform part held _ entry

private theorem FilterNode.additions_and {adapter : Adapter} {node : FilterNode} {forest : Forest}
    (read : node.additions adapter .and = .ok forest) : Uniform .and forest := by
  cases node with
  | leaf content =>
    rw [FilterNode.additions] at read
    obtain ⟨outcome, _, same⟩ := Except.bind_ok read
    cases outcome with
    | skipped reason =>
      cases same
      intro _ found
      cases found
    | predicate test =>
      cases same
      exact List.forall_mem_singleton.mpr rfl
  | group logic children =>
    rw [FilterNode.additions] at read
    obtain ⟨_, _, same⟩ := Except.bind_ok read
    cases same
    exact List.forall_mem_singleton.mpr rfl

namespace Refresh

/-- Whether neither the script of the caller nor a named override joins what it adds to the root by `or`. -/
structure JoinsByAnd (refresh : Refresh) : Prop where
  script : ∀ forest, refresh.scriptAdditions = .ok forest → Uniform .and forest
  overrides : refresh.search.OverridesJoin refresh.query.adapter

private theorem globalAdditions_and {refresh : Refresh} {forest : Forest}
    (read : refresh.globalAdditions = .ok forest) : Uniform .and forest := by
  have none : Uniform .and ([] : Forest) := by simp [Uniform]
  unfold globalAdditions at read
  split at read
  · obtain ⟨searchable, _, read⟩ := Except.bind_ok read
    cases searchable with
    | false =>
      cases read
      exact none
    | true =>
      obtain ⟨_, _, read⟩ := Except.bind_ok read
      obtain ⟨terms, _, same⟩ := Except.bind_ok read
      cases same
      exact uniform_map .and _ terms
  · cases read
    exact none

private theorem treeAdditions_and {refresh : Refresh} {forest : Forest}
    (read : refresh.treeAdditions = .ok forest) : Uniform .and forest := by
  obtain ⟨_, _, read⟩ := Except.bind_ok read
  obtain ⟨tree, _, read⟩ := Except.bind_ok read
  cases tree with
  | none =>
    cases read
    intro _ found
    cases found
  | some tree => exact FilterNode.additions_and read

/-- Only the script of the caller and named overrides can keep the words of the parts from being straight. -/
theorem JoinsByAnd.parts {refresh : Refresh} {parts : List Forest} (joins : refresh.JoinsByAnd)
    (planned : refresh.parts = .ok parts) : ∀ part ∈ parts, Uniform .and part := by
  obtain ⟨searched, read₁, planned⟩ := Except.bind_ok planned
  obtain ⟨scripted, read₂, planned⟩ := Except.bind_ok planned
  obtain ⟨own, read₃, planned⟩ := Except.bind_ok planned
  obtain ⟨filtered, read₄, same⟩ := Except.bind_ok planned
  cases same
  have uniform := Search.ownAdditions_and joins.overrides read₃
  intro part member
  simp only [List.cons_append, List.mem_cons, List.mem_append, List.mem_map, List.not_mem_nil, or_false] at member
  rcases member with rfl | rfl | ⟨entry, among, rfl⟩ | rfl
  · exact globalAdditions_and read₁
  · exact joins.script _ read₂
  · exact List.forall_mem_singleton.mpr (uniform entry among)
  · exact treeAdditions_and read₄

/-- What a refresh filters by. When it runs through, the root of its query holds what it held before and then the
parts of the passes, in their order. The statement asks a row for the base condition and for each of these on its
own where their words are straight, and only there whatever their conditions are; the words are straight when nothing
that the caller has set joins what it adds to the root by `or`. -/
theorem filterRows_accepts {before after : Refresh} {held : Forest} {result : Unit}
    (ran : filterRows before = (.ok result, after)) (formed : before.query.Formed)
    (root : before.query.store.Unfolds (fun _ => True) before.query.root held) :
    ∃ parts, before.parts = .ok parts ∧ Grows before after parts.flatten ∧
      (KeptApart ((held :: parts).map Forest.words) ↔ Straight ((held :: parts).map Forest.words)) ∧
      (Uniform .and held → before.JoinsByAnd → Straight ((held :: parts).map Forest.words)) ∧
      ∀ reader filter, Sheltered reader before.query.base.filter (held :: parts).flatten →
        Straight ((held :: parts).map Forest.words) → after.query.condition = .ok filter →
        Composes reader before.query.base.filter (held :: parts) filter := by
  obtain ⟨parts, planned, grown⟩ := filterRows_grows formed ran
  refine ⟨parts, planned, grown, keptApart_iff _, ?_, ?_⟩
  · intro joined joins
    exact Uniform.straight (List.forall_mem_cons.mpr ⟨joined, joins.parts planned⟩)
  intro reader filter sheltered straight read
  have unfolds := grown.query.store.unfolds formed.closed root
  rw [← grown.query.root] at unfolds
  rw [← grown.query.base] at sheltered ⊢
  exact Query.composes unfolds sheltered straight read

private def nullSearches (second : Operation) : Refresh :=
  let column (name : String) : Value :=
    .object [("data", .text name), ("searchable", .bool true), ("search", .object [("value", .text "x")])]
  { request := ⟨.object [("columns", .list [column "a", column "b"])]⟩
    config := {}
    query := Query.ofSelect Select.empty .sqlite false
    registry := {}
    paths := PathSet.expand []
    searches := [("a", .named ⟨.null, []⟩), ("b", .named ⟨second, []⟩)]
    database := some ⟨[.int 5], [], []⟩ }

/-- A search of the second column narrows that of the first, and comes in place of it when it is joined by `or`. -/
theorem filterRows_accepts_nulls :
    let reader : Reader := ⟨.sqlite, fun _ => []⟩
    let test (name : String) : Cond := .atom (.isNull (.literal name) false)
    Composes reader none [[], [], [], [(.and, .cond (test "a"))], [(.and, .cond (test "b"))], []]
        (some (.joined .and [test "a", test "b"])) ∧
      ¬ KeptApart [[], [], [], [.and], [.or], []] := by
  intro reader test
  constructor
  · have ran : filterRows (nullSearches .null) = (.ok (), (filterRows (nullSearches .null)).2) := Prod.ext rfl rfl
    obtain ⟨parts, planned, _, _, _, composed⟩ := filterRows_accepts ran (Query.formed_ofSelect ..) (.intro trivial .nil)
    have known : (nullSearches .null).parts =
        .ok [[], [], [(.and, .cond (test "a"))], [(.and, .cond (test "b"))], []] := rfl
    cases known.symm.trans planned
    have tests : Forest.Each Cond.Test [(.and, .cond (test "a")), (.and, .cond (test "b"))] :=
      ⟨trivial, trivial, trivial⟩
    refine composed reader _ ⟨by rintro _ ⟨⟩, ?_, by rintro ⟨⟩⟩ (.inr ?_) rfl
    · exact tests.apart fun _ structured => structured.safe reader
    · decide
  · have ran : filterRows (nullSearches .orNull) = (.ok (), (filterRows (nullSearches .orNull)).2) := Prod.ext rfl rfl
    obtain ⟨parts, planned, _, bounds, _, _⟩ := filterRows_accepts ran (Query.formed_ofSelect ..) (.intro trivial .nil)
    have known : (nullSearches .orNull).parts =
        .ok [[], [], [(.and, .cond (test "a"))], [(.or, .cond (test "b"))], []] := rfl
    cases known.symm.trans planned
    intro kept
    rcases bounds.mp kept with few | straight
    · exact absurd few (by decide)
    · exact absurd straight (by decide)

end Refresh

end DataGrid
