import DataGrid.Proofs.GroupBuilding
import DataGrid.Proofs.HandleCondition
import DataGrid.Proofs.TreeFilter
import DataGrid.Proofs.UniformGroups

/-! What a filter tree asks of a row. A leaf compares the value of its field, which may be null, as its operator
says; leaves that lack a part or name no operator are left out, and so are groups with nothing in them. Compiling a
tree into a group that is empty gives a condition of the same truth value in every row, and one note for each leaf that
is left out. -/

namespace DataGrid

open Sql

/-- What conditions can see of a row: the value of each expression, and how the database compares two values that are
not null. -/
structure RowView where
  value : Expr → Value
  holds : Comparison → Value → Value → Bool

def Value.isNull : Value → Bool
  | .null => true
  | _ => false

namespace RowView

/-- Whether a comparison holds; with a null on either side that is unknown. -/
def compare (row : RowView) (operator : Comparison) (left right : Value) : Truth :=
  if left.isNull || right.isNull then .unknown else .ofBool (row.holds operator left right)

/-- The truth of the tests that a filter makes. -/
def test (row : RowView) : Atom → Truth
  | .compare left operator value => row.compare operator (row.value left) value
  | .isTruth left flag => row.compare .equal (row.value left) (.bool flag)
  | .isNull left negated => .ofBool ((row.value left).isNull != negated)
  | _ => .unknown

def assignment (row : RowView) : Assignment where
  predicate
    | .test atom => row.test atom
    | .related .. => .unknown
  text _ := .unknown

end RowView

/-- The table of operators: what each asks of the value of a field. -/
def FilterOperator.truth (operator : FilterOperator) (row : RowView) (field value : Value) : Truth :=
  match operator with
  | equal => row.compare .equal field value
  | unequal => row.compare .unequal field value
  | greater => row.compare .greater field value
  | atLeast => row.compare .atLeast field value
  | less => row.compare .less field value
  | atMost => row.compare .atMost field value
  | startsWith => row.compare .like field (.text (value.display ++ "%"))
  | contains => row.compare .like field (.text ("%" ++ value.display ++ "%"))
  | lacks => row.compare .notLike field (.text ("%" ++ value.display ++ "%"))
  | endsWith => row.compare .like field (.text ("%" ++ value.display))
  | isNull => .ofBool field.isNull
  | isNotNull => .ofBool !field.isNull
  | isEmpty => row.compare .equal field (.text "")
  | isNotEmpty => row.compare .unequal field (.text "")

namespace FilterLeaf

def isIncomplete (leaf : FilterLeaf) : Bool := leaf.field.missing || leaf.operator.missing || leaf.value.missing

/-- The operator of a leaf that is kept. -/
def operator? (leaf : FilterLeaf) : Option FilterOperator :=
  if leaf.isIncomplete then none else FilterOperator.ofWord? (String.ofList (Text.trim leaf.operator.display.toList))

def isRemoved (leaf : FilterLeaf) : Bool := leaf.operator?.isNone

/-- What is noted about a leaf that is left out. -/
def note (leaf : FilterLeaf) : Note where
  level := .error
  text :=
    if leaf.isIncomplete then "Filter skipped, some important value is not set: " ++ leaf.shown
    else "Filter skipped, " ++ leaf.operator.display ++ " is unknown"

def truth? (adapter : Adapter) (row : RowView) (leaf : FilterLeaf) : Option Truth :=
  leaf.operator?.map fun operator =>
    operator.truth row (row.value (adapter.column leaf.field.display)) leaf.value

end FilterLeaf

namespace FilterNode

mutual

/-- What a node asks of a row, none when nothing is left of it. -/
def truth? (adapter : Adapter) (row : RowView) : FilterNode → Option Truth
  | .leaf content => content.truth? adapter row
  | .group logic children =>
    match truths adapter row children with
    | [] => none
    | kept => some (Truth.join logic kept)

def truths (adapter : Adapter) (row : RowView) : List FilterNode → List Truth
  | [] => []
  | node :: rest => (node.truth? adapter row).toList ++ truths adapter row rest

end

mutual

/-- The leaves of a node, depth first. -/
def leaves : FilterNode → List FilterLeaf
  | .leaf content => [content]
  | .group _ children => allLeaves children

def allLeaves : List FilterNode → List FilterLeaf
  | [] => []
  | node :: rest => node.leaves ++ allLeaves rest

end

mutual

/-- How many groups are nested inside one another. -/
def depth : FilterNode → Nat
  | .leaf _ => 0
  | .group _ children => deepest children

def deepest : List FilterNode → Nat
  | [] => 1
  | node :: rest => max (node.depth + 1) (deepest rest)

end

def removed (node : FilterNode) : List FilterLeaf := node.leaves.filter (·.isRemoved)

def notes (node : FilterNode) : Log := node.removed.map FilterLeaf.note

end FilterNode

/-- The node that a decoded value describes: a group for a record with a logic and filters, of which only a list holds
any; a leaf for every other value. -/
inductive Described : Value → FilterNode → Prop where
  | group {fields word items junction children} (logic : Value.field? fields "logic" = some word)
      (filters : Value.field? fields "filters" = some (.list items)) (named : word.toLogic = .ok junction)
      (each : List.Forall₂ Described items children) : Described (.object fields) (.group junction children)
  | barren {fields word value junction} (logic : Value.field? fields "logic" = some word)
      (filters : Value.field? fields "filters" = some value) (named : word.toLogic = .ok junction)
      (other : ∀ items, value ≠ .list items) : Described (.object fields) (.group junction [])
  | leaf {fields} (plain : FilterNode.describesGroup fields = false) :
      Described (.object fields) (.leaf (FilterLeaf.ofFields fields))
  | foreign {value} (other : ∀ fields, value ≠ .object fields) : Described value (.leaf {})

section Reading

mutual

theorem Described.ofValue {value : Value} {node : FilterNode} (read : FilterNode.ofValue value = .ok node) :
    Described value node := by
  match value with
  | .object fields =>
    rw [FilterNode.ofValue] at read
    cases described : FilterNode.describesGroup fields with
    | false =>
      rw [described] at read
      cases read
      exact .leaf described
    | true =>
      rw [described, if_pos rfl] at read
      obtain ⟨junction, named, read⟩ := Except.bind_ok read
      obtain ⟨children, found, same⟩ := Except.bind_ok read
      cases same
      rw [FilterNode.describesGroup, Bool.and_eq_true, Option.isSome_iff_exists, Option.isSome_iff_exists] at described
      obtain ⟨⟨word, logic⟩, held, filters⟩ := described
      rw [Value.fieldOrNull, logic, Option.getD_some] at named
      rcases Described.childrenOf found held filters with ⟨items, rfl, each⟩ | ⟨other, rfl⟩
      · exact .group logic filters named each
      · exact .barren logic filters named other
  | .null | .bool _ | .int _ | .float _ | .text _ | .bytes _ | .decimal _ | .moment _ | .uuid _ | .foreign
  | .list _ | .row _ =>
    cases read
    exact .foreign (by rintro fields ⟨⟩)

theorem Described.childrenOf {fields : List (String × Value)} {children : List FilterNode}
    (read : FilterNode.childrenOf fields = .ok children) (held : Value)
    (filters : Value.field? fields "filters" = some held) :
    (∃ items, held = .list items ∧ List.Forall₂ Described items children) ∨
      ((∀ items, held ≠ .list items) ∧ children = []) := by
  match fields with
  | [] => cases filters
  | (name, value) :: rest =>
    rw [FilterNode.childrenOf.eq_def] at read
    simp only at read
    by_cases same : name = "filters"
    · rw [if_pos same] at read
      have first : Value.field? ((name, value) :: rest) "filters" = some value := by simp [Value.field?, same]
      cases first.symm.trans filters
      split at read
      · rename_i items
        exact .inl ⟨items, rfl, Described.ofValues read⟩
      · rename_i other
        cases read
        exact .inr ⟨other, rfl⟩
    · rw [if_neg same] at read
      have later : Value.field? ((name, value) :: rest) "filters" = Value.field? rest "filters" := by
        simp [Value.field?, same]
      exact Described.childrenOf read held (later ▸ filters)

theorem Described.ofValues {items : List Value} {children : List FilterNode}
    (read : FilterNode.ofValues items = .ok children) : List.Forall₂ Described items children := by
  match items with
  | [] =>
    cases read
    exact .nil
  | value :: rest =>
    rw [FilterNode.ofValues] at read
    obtain ⟨node, first, read⟩ := Except.bind_ok read
    obtain ⟨others, more, same⟩ := Except.bind_ok read
    cases same
    exact .cons (Described.ofValue first) (Described.ofValues more)

end

/-- A value that is accepted describes the tree that is read, and nothing is noted. -/
theorem FilterTree.ofValue_described {value : Value} {tree : FilterTree} {log : Log}
    (read : FilterTree.ofValue value = (.ok (some tree), log)) : Described value tree.toNode ∧ log = [] := by
  unfold FilterTree.ofValue at read
  split at read
  · cases read
  · split at read
    · rename_i fields _
      split at read
      · cases parsed : FilterNode.ofValue (.object fields) with
        | error failure =>
          rw [parsed] at read
          cases read
        | ok node =>
          rw [parsed] at read
          cases node with
          | leaf content => cases read
          | group logic children =>
            cases read
            exact ⟨.ofValue parsed, rfl⟩
      · cases read
    · cases read

end Reading

section Leaves

variable {adapter : Adapter} {row : RowView} {reader : Reader}

theorem compare_cases {left : Expr} {operator : Comparison} {value : Value} {test : Atom}
    (made : Sql.compare left operator value = .ok test) :
    (operator = .equal ∧ value = .null ∧ test = .isNull left false) ∨
      (∃ flag, operator = .equal ∧ value = .bool flag ∧ test = .isTruth left flag) ∨
      test = .compare left operator value := by
  unfold Sql.compare at made
  split at made
  · cases made
    exact .inl ⟨rfl, rfl, rfl⟩
  · cases made
    exact .inr (.inl ⟨_, rfl, rfl, rfl⟩)
  all_goals
    cases made
    try exact .inr (.inr rfl)

/-- A comparison with a value that is not null asks what the operator says. -/
theorem compare_truth {left : Expr} {operator : Comparison} {value : Value} {test : Atom}
    (made : Sql.compare left operator value = .ok test) (present : value ≠ .null) :
    row.test test = row.compare operator (row.value left) value := by
  rcases compare_cases made with ⟨_, null, _⟩ | ⟨flag, rfl, rfl, rfl⟩ | rfl
  · exact absurd null present
  · rfl
  · rfl

/-- The predicate that an operator stands for is true in a row as the table of operators says. -/
theorem FilterOperator.predicate_truth {operator : FilterOperator} {left : Expr} {value : Value} {test : Atom}
    (made : operator.predicate left value = .ok test) (present : value ≠ .null) :
    row.test test = operator.truth row (row.value left) value := by
  cases operator with
  | equal | unequal | greater | atLeast | less | atMost => exact compare_truth made present
  | startsWith | contains | lacks | endsWith | isEmpty | isNotEmpty => exact compare_truth made (by simp)
  | isNull =>
    cases made
    simp [RowView.test, truth]
  | isNotNull =>
    cases made
    simp [RowView.test, truth]

/-- The tests that filters make. -/
def Sql.Atom.FilterTest : Atom → Prop
  | .compare .. | .isTruth .. | .isNull .. => True
  | _ => False

theorem FilterOperator.predicate_filterTest {operator : FilterOperator} {left : Expr} {value : Value} {test : Atom}
    (made : operator.predicate left value = .ok test) : test.FilterTest := by
  have compared {comparison : Comparison} {operand : Value} (made : Sql.compare left comparison operand = .ok test) :
      test.FilterTest := by
    rcases compare_cases made with ⟨_, _, rfl⟩ | ⟨_, _, _, rfl⟩ | rfl <;> trivial
  unfold predicate at made
  split at made
  case h_11 | h_12 =>
    cases made
    trivial
  all_goals exact compared made

theorem Sql.Atom.FilterTest.structured {test : Atom} (filters : test.FilterTest) : (Cond.atom test).Test := by
  cases test <;> trivial

theorem Sql.Atom.FilterTest.value {test : Atom} (filters : test.FilterTest) :
    (Cond.atom test).value reader row.assignment = row.test test := by
  cases test <;> first | rfl | exact filters.elim

namespace FilterLeaf

variable {leaf : FilterLeaf} {junction : Junction} {forest : Forest}

/-- A leaf becomes a predicate of its operator, or is left out with its note. -/
theorem outcome_cases {outcome : LeafOutcome} (found : leaf.outcome adapter = .ok outcome) :
    (leaf.operator? = none ∧ outcome = .skipped leaf.note.text) ∨
      ∃ operator test, leaf.operator? = some operator ∧ leaf.value ≠ .null ∧ outcome = .predicate test ∧
        operator.predicate (adapter.column leaf.field.display) leaf.value = .ok test := by
  have parts : leaf.isIncomplete = (leaf.field.missing || leaf.operator.missing || leaf.value.missing) := rfl
  rw [FilterLeaf.outcome, ← parts] at found
  cases incomplete : leaf.isIncomplete with
  | true =>
    simp only [incomplete, if_true] at found
    cases found
    left
    simp [operator?, note, incomplete]
  | false =>
    simp only [incomplete, Bool.false_eq_true, if_false] at found
    cases named : FilterOperator.ofWord? (String.ofList (Text.trim leaf.operator.display.toList)) with
    | none =>
      rw [named] at found
      cases found
      left
      simp [operator?, note, incomplete, named]
    | some operator =>
      rw [named] at found
      obtain ⟨test, made, same⟩ := Except.map_ok found
      refine .inr ⟨operator, test, by simp [operator?, incomplete, named], ?_, same, made⟩
      intro null
      simp [parts, null, Value.missing] at incomplete

theorem additions_cases (added : leaf.additions adapter junction = .ok forest) :
    (leaf.operator? = none ∧ forest = []) ∨
      ∃ operator test, leaf.operator? = some operator ∧ leaf.value ≠ .null ∧
        forest = [(junction, .cond (.atom test))] ∧
        operator.predicate (adapter.column leaf.field.display) leaf.value = .ok test := by
  obtain ⟨outcome, found, added⟩ := Except.bind_ok added
  rcases outcome_cases found with ⟨none, rfl⟩ | ⟨operator, test, kept, present, rfl, made⟩
  · cases added
    exact .inl ⟨none, rfl⟩
  · cases added
    exact .inr ⟨operator, test, kept, present, rfl, made⟩

end FilterLeaf

/-- The groups and predicates that a tree adds are worth what the tree asks of the row. -/
structure FilterNode.Adds (adapter : Adapter) (junction : Junction) (forest : Forest)
    (truths : RowView → List Truth) : Prop where
  tests : forest.Each Cond.Test
  values (reader : Reader) (row : RowView) :
    forest.values reader row.assignment = (truths row).map (junction, ·)

mutual

theorem FilterNode.additions_adds {node : FilterNode} {junction : Junction} {forest : Forest}
    (added : node.additions adapter junction = .ok forest) :
    Adds adapter junction forest fun row => (node.truth? adapter row).toList := by
  match node with
  | .leaf content =>
    rcases content.additions_cases added with ⟨none, rfl⟩ | ⟨operator, test, kept, present, rfl, made⟩
    · refine ⟨trivial, fun reader row => ?_⟩
      rw [truth?, FilterLeaf.truth?, none]
      rfl
    · have filters := FilterOperator.predicate_filterTest made
      refine ⟨⟨filters.structured, trivial⟩, fun reader row => ?_⟩
      rw [truth?, FilterLeaf.truth?, kept, Forest.values, PredicateTree.value?, filters.value,
        FilterOperator.predicate_truth made present]
      rfl
  | .group logic children =>
    rw [FilterNode.additions] at added
    obtain ⟨inner, found, same⟩ := Except.bind_ok added
    cases same
    have kept := FilterNode.allAdditions_adds found
    refine ⟨⟨kept.tests, trivial⟩, fun reader row => ?_⟩
    have folded : (PredicateTree.group inner).value? reader row.assignment =
        (FilterNode.group logic children).truth? adapter row := by
      rw [PredicateTree.value?, kept.values, Truth.fold_uniform (uniform_map logic _ _), truth?]
      cases truths adapter row children with
      | nil => rfl
      | cons first rest => simp
    rw [Forest.values, Forest.values, folded]
    cases (FilterNode.group logic children).truth? adapter row <;> rfl

theorem FilterNode.allAdditions_adds {nodes : List FilterNode} {junction : Junction} {forest : Forest}
    (added : allAdditions adapter junction nodes = .ok forest) :
    Adds adapter junction forest fun row => truths adapter row nodes := by
  match nodes with
  | [] =>
    cases added
    exact ⟨trivial, fun _ _ => rfl⟩
  | node :: rest =>
    rw [allAdditions] at added
    obtain ⟨first, one, added⟩ := Except.bind_ok added
    obtain ⟨others, more, same⟩ := Except.bind_ok added
    cases same
    have head := FilterNode.additions_adds one
    have tail := FilterNode.allAdditions_adds more
    refine ⟨head.tests.append tail.tests, fun reader row => ?_⟩
    rw [Forest.values_append, head.values, tail.values, truths, List.map_append]

end

mutual

theorem FilterNode.additions_height {node : FilterNode} {junction : Junction} {forest : Forest}
    (added : node.additions adapter junction = .ok forest) :
    forest.height = node.depth + 1 := by
  match node with
  | .leaf content =>
    rcases content.additions_cases added with ⟨_, rfl⟩ | ⟨_, _, _, _, rfl, _⟩ <;> rfl
  | .group logic children =>
    rw [FilterNode.additions] at added
    obtain ⟨inner, found, same⟩ := Except.bind_ok added
    cases same
    rw [Forest.height, PredicateTree.height, FilterNode.allAdditions_height found, depth, Forest.height]
    omega

theorem FilterNode.allAdditions_height {nodes : List FilterNode} {junction : Junction} {forest : Forest}
    (added : allAdditions adapter junction nodes = .ok forest) :
    forest.height = deepest nodes := by
  match nodes with
  | [] =>
    cases added
    rfl
  | node :: rest =>
    rw [allAdditions] at added
    obtain ⟨first, one, added⟩ := Except.bind_ok added
    obtain ⟨others, more, same⟩ := Except.bind_ok added
    cases same
    rw [Forest.height_append, FilterNode.additions_height one, FilterNode.allAdditions_height more, deepest]

end

mutual

/-- Nothing is left of a node exactly when all of its leaves are left out. -/
theorem FilterNode.truth_eq_none {node : FilterNode} :
    node.truth? adapter row = none ↔ ∀ leaf ∈ node.leaves, leaf.isRemoved := by
  match node with
  | .leaf content => simp [truth?, FilterLeaf.truth?, leaves, FilterLeaf.isRemoved]
  | .group logic children =>
    rw [leaves, ← FilterNode.truths_eq_nil, truth?]
    split <;> simp_all

theorem FilterNode.truths_eq_nil {nodes : List FilterNode} :
    truths adapter row nodes = [] ↔ ∀ leaf ∈ allLeaves nodes, leaf.isRemoved := by
  match nodes with
  | [] => simp [truths, allLeaves]
  | node :: rest =>
    rw [truths, List.append_eq_nil_iff, FilterNode.truths_eq_nil, Option.toList_eq_nil_iff,
      FilterNode.truth_eq_none, allLeaves, List.forall_mem_append]

end

section Notes

variable {id : Nat} {junction : Junction} {before after : Scope}

theorem FilterLeaf.compile_log {leaf : FilterLeaf} {added : Bool}
    (ran : leaf.compile adapter id junction before = (.ok added, after)) :
    after.log = before.log ++ (FilterNode.leaf leaf).notes := by
  cases found : leaf.outcome adapter with
  | error failure =>
    simp only [compile, found] at ran
    cases ran
  | ok outcome =>
    rcases outcome_cases found with ⟨none, rfl⟩ | ⟨operator, test, kept, _, rfl, _⟩
    · simp only [compile, found] at ran
      cases ran
      simp [FilterNode.notes, FilterNode.removed, FilterNode.leaves, FilterLeaf.isRemoved, none]
      rfl
    · simp only [compile, found] at ran
      cases ran
      simp [FilterNode.notes, FilterNode.removed, FilterNode.leaves, FilterLeaf.isRemoved, kept]

mutual

/-- One note is made for each leaf that is left out, depth first. -/
theorem FilterNode.compile_log {node : FilterNode} {id : Nat} {junction : Junction} {before after : Scope}
    (ran : node.compile adapter id junction before = (.ok (), after)) : after.log = before.log ++ node.notes := by
  match node with
  | .leaf content =>
    rw [FilterNode.compile] at ran
    obtain ⟨added, middle, compiled, done⟩ := Action.bind_ok ran
    cases done
    exact FilterLeaf.compile_log compiled
  | .group logic children =>
    simp only [FilterNode.compile] at ran
    rw [FilterNode.compileAll_log ran]
    rfl

theorem FilterNode.compileAll_log {nodes : List FilterNode} {id : Nat} {junction : Junction} {before after : Scope}
    (ran : FilterNode.compileAll adapter id junction nodes before = (.ok (), after)) :
    after.log = before.log ++ ((allLeaves nodes).filter (·.isRemoved)).map FilterLeaf.note := by
  match nodes with
  | [] =>
    simp only [FilterNode.compileAll] at ran
    cases ran
    simp [FilterNode.allLeaves]
  | node :: rest =>
    rw [FilterNode.compileAll] at ran
    obtain ⟨_, middle, first, others⟩ := Action.bind_ok ran
    rw [FilterNode.compileAll_log others, FilterNode.compile_log first, FilterNode.allLeaves, List.filter_append,
      List.map_append, List.append_assoc]
    rfl

end

end Notes

end Leaves

/-- Reading a group of tests fails only when its tree is higher than the limit allows. -/
theorem Store.Unfolds.clause_of_tests {store : Store} {region : GroupId → Prop} {id : Nat} {forest : Forest}
    (unfolds : store.Unfolds region id forest) (closed : store.Closed) (tests : forest.Each Cond.Test) :
    Outcome (store.clause? id) forest.clause? (stepLimit / 3 < forest.height) False := by
  have shallow : min (store.depth 1) (store.depth 3) = store.depth 3 := by
    simp only [Store.depth]
    omega
  apply unfolds.clause.weaken
  · exact fun deep => GroupCall.deeper closed unfolds (shallow ▸ deep)
  · exact fun settled => settled (tests.weaken fun _ _ => trivial)

namespace FilterTree

variable {value : Value} {tree : FilterTree} {notes log : Log} {adapter : Adapter} {id : Nat} {store : Store}
  {after : Scope}

theorem compile_unfolds (closed : store.Closed) (inside : id < store.size) (empty : store.entries id = [])
    (ran : tree.compile adapter id ⟨store, log⟩ = (.ok (), after)) :
    ∃ forest, tree.toNode.additions adapter .and = .ok forest ∧ after.store.Closed ∧
      after.store.Unfolds (fun _ => True) id forest := by
  obtain ⟨forest, added, appended⟩ := FilterNode.compile_appends inside ran
  refine ⟨forest, added, appended.closed closed, ?_⟩
  have before : store.Unfolds (fun _ => True) id [] := by
    refine .intro trivial ?_
    rw [empty]
    exact .nil
  exact appended.unfolds closed before

/-- The condition that a compiled tree leaves in an empty group asks what the tree asks. The tree is that of the
decoded value, and one note is made for each leaf that is left out. There is no condition exactly when all leaves are
left out. A condition that is there is written as its tokens, these read as the value of the tree in each row, and so
the group accepts the rows that the tree accepts. Reading the group fails only for a tree that is nested too deep. -/
theorem compile_accepts (read : ofValue value = (.ok (some tree), notes)) (closed : store.Closed)
    (inside : id < store.size) (empty : store.entries id = [])
    (ran : tree.compile adapter id ⟨store, log⟩ = (.ok (), after)) :
    Described value tree.toNode ∧ notes = [] ∧ after.log = log ++ tree.toNode.notes ∧
      ∃ found : Option Cond,
        Outcome (after.store.clause? id) (found.map Clause.cond) (stepLimit / 3 ≤ tree.toNode.depth) False ∧
        (found = none ↔ ∀ leaf ∈ tree.toNode.leaves, leaf.isRemoved) ∧
        (∀ condition ∈ found, ∀ dialect, condition.steps ≤ stepLimit →
          condition.written dialect = condition.outline.flatMap (Token.pieces dialect)) ∧
        ∀ reader row,
          (∀ condition ∈ found, ∀ result,
            Reads (row.assignment).value .disjunction (condition.tokens reader) result ↔
              tree.toNode.truth? adapter row = some result) ∧
          (Accepts reader row.assignment found ↔ (tree.toNode.truth? adapter row).getD .yes = .yes) := by
  obtain ⟨described, quiet⟩ := ofValue_described read
  obtain ⟨forest, added, shut, unfolds⟩ := compile_unfolds closed inside empty ran
  have adds := FilterNode.additions_adds added
  have height := FilterNode.additions_height added
  have truth (reader : Reader) (row : RowView) :
      forest.value? reader row.assignment = tree.toNode.truth? adapter row := by
    rw [Forest.value?, adds.values, Truth.fold_uniform (uniform_map .and _ _)]
    cases tree.toNode.truth? adapter row <;> simp [Truth.join, Truth.combine, Truth.neutral]
  have single : ∃ found : Option Cond, forest.clause? = found.map Clause.cond := by
    cases folded : forest.clause? with
    | none => exact ⟨none, rfl⟩
    | some clause =>
      obtain ⟨condition, rfl⟩ := adds.tests.cond clause folded
      exact ⟨some condition, rfl⟩
  obtain ⟨found, folded⟩ := single
  have nothing (reader : Reader) (row : RowView) : found = none ↔ tree.toNode.truth? adapter row = none := by
    rw [← truth reader row, Forest.value_eq_none, ← Forest.clause_eq_none, folded, Option.map_eq_none_iff]
  have reads (reader : Reader) (row : RowView) (condition : Cond) (present : condition ∈ found) (result : Truth) :
      Reads (row.assignment).value .disjunction (condition.tokens reader) result ↔
        tree.toNode.truth? adapter row = some result := by
    rw [← truth reader row]
    refine (adds.tests.apart fun _ structured => structured.safe reader).reads ?_ row.assignment result
    rw [folded, Option.mem_def.mp present, Option.map_some]
  refine ⟨described, quiet, FilterNode.compile_log ran, found, ?_, ?_, ?_, ?_⟩
  · rw [← folded]
    apply (unfolds.clause_of_tests shut adds.tests).weaken
    · intro deep
      omega
    · exact fun impossible => impossible
  · rw [nothing ⟨.sqlite, fun _ => []⟩ ⟨fun _ => .null, fun _ _ _ => false⟩, FilterNode.truth_eq_none]
  · exact fun condition _ dialect => condition.written_outline dialect
  · intro reader row
    refine ⟨reads reader row, ?_⟩
    cases found with
    | none => simp [Accepts, (nothing reader row).mp rfl]
    | some condition =>
      have asked : tree.toNode.truth? adapter row ≠ none := by
        rw [Ne, ← nothing reader row]
        exact Option.some_ne_none condition
      obtain ⟨result, asked⟩ := Option.ne_none_iff_exists'.mp asked
      simp [Accepts, reads reader row condition rfl, asked]

/-- An `or` of a leaf, a leaf without a field, a group whose only leaf has no operator that is known, and an `and` of
two leaves. -/
private def mixed : Value :=
  .object [("logic", .text "or"), ("filters", .list [
    leaf "a" "eq" (.int 1), leaf "" "eq" (.int 2),
    .object [("logic", .text "and"), ("filters", .list [leaf "b" "like" (.text "x")])],
    .object [("logic", .text " AND "), ("filters", .list [leaf "b" "gt" (.int 3), leaf "c" "contains" (.text "y")])]])]
where
  leaf (field operator : String) (value : Value) : Value :=
    .object [("field", .text field), ("operator", .text operator), ("value", value)]

private def mixedTree : FilterTree := (ofValue mixed).1.toOption.join.getD ⟨.and, []⟩

private def unfiltered : Scope := ⟨(Store.fresh {}).2, []⟩

theorem compile_accepts_mixed :
    ∃ after found, ofValue mixed = (.ok (some mixedTree), []) ∧ mixedTree.toNode.removed.length = 2 ∧
      mixedTree.compile ⟨.sqlite, .generic⟩ 0 unfiltered = (.ok (), after) ∧
      after.log = mixedTree.toNode.notes ∧ after.store.clause? 0 = .ok (some (.cond found)) ∧
      ∀ reader row, Accepts reader row.assignment (some found) ↔
        (mixedTree.toNode.truth? ⟨.sqlite, .generic⟩ row).getD .yes = .yes := by
  have read : ofValue mixed = (.ok (some mixedTree), []) := rfl
  have removed : mixedTree.toNode.removed.length = 2 := by decide +kernel
  have kept : ¬ ∀ leaf ∈ mixedTree.toNode.leaves, leaf.isRemoved := by decide +kernel
  have done : (mixedTree.compile ⟨.sqlite, .generic⟩ 0 unfiltered).1.isOk = true := by decide +kernel
  have shallow : ¬ stepLimit / 3 ≤ mixedTree.toNode.depth := by decide +kernel
  obtain ⟨_, ran⟩ := Action.ran_of_isOk done
  obtain ⟨_, _, noted, found, outcome, nothing, _, reads⟩ := compile_accepts read Store.Closed.empty.fresh (by decide) rfl ran
  cases found with
  | none => exact absurd (nothing.mp rfl) kept
  | some condition =>
    refine ⟨_, condition, read, removed, ran, noted, ?_, fun reader row => (reads reader row).2⟩
    rcases outcome with done | ⟨_, deep⟩ | ⟨_, impossible⟩
    · exact done
    · exact absurd deep shallow
    · exact impossible.elim

end FilterTree

end DataGrid
