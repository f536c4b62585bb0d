import DataGrid.Proofs.FilterMeaning
import DataGrid.Proofs.SqlLayout

/-! Which parentheses a filter tree is written with. Each group that holds something has its own, except that a group
gives them up to a list of two or more terms that is joined by the same word, and so do the groups around it that hold
nothing else; and in such a list an inequality gets parentheses. The parentheses show the groups of the tree exactly
where neither occurs. -/

namespace DataGrid

open Sql

/-- A tree of tests: what is left of a filter tree, or what parentheses show of it. -/
inductive TestTree where
  | test (atom : Atom)
  | group (logic : Junction) (children : List TestTree)

namespace TestTree

mutual

/-- One pair of parentheses for each group, and its word between its children. -/
def layout : TestTree → Layout Predicate
  | .test atom => .operand (.test atom)
  | .group logic children => .enclosed ((layouts children).intersperse (.word logic))

def layouts : List TestTree → List (Layout Predicate)
  | [] => []
  | tree :: rest => tree.layout :: layouts rest

end

mutual

/-- Whether each group has a child. -/
def Filled : TestTree → Prop
  | .test _ => True
  | .group _ children => children ≠ [] ∧ AllFilled children

def AllFilled : List TestTree → Prop
  | [] => True
  | tree :: rest => tree.Filled ∧ AllFilled rest

end

/-- What is inside the groups of one child. -/
def core : TestTree → TestTree
  | .group _ [only] => only.core
  | tree => tree

/-- What a tree becomes as a term of a list of two or more. -/
def spread (logic : Junction) : TestTree → List TestTree
  | .test atom => if atom.isShielded then [.group logic [.test atom]] else [.test atom]
  | .group inner children =>
    match (TestTree.group inner children).core with
    | .group word terms => if word = logic then terms else [.group inner children]
    | .test _ => [.group inner children]

def gather (logic : Junction) (parts : List TestTree) : TestTree :=
  match parts with
  | [only] => .group logic [only]
  | _ => .group logic (parts.flatMap (spread logic))

mutual

/-- The tree that the parentheses of the SQL show. -/
def written : TestTree → TestTree
  | .test atom => .test atom
  | .group logic children => gather logic (allWritten children)

def allWritten : List TestTree → List TestTree
  | [] => []
  | tree :: rest => tree.written :: allWritten rest

end

/-- Whether a tree stays one term, without parentheses of its own making, in a list of two or more. -/
def Stays (logic : Junction) : TestTree → Prop
  | .test atom => atom.isShielded = false
  | .group inner children => ∀ terms, (TestTree.group inner children).core ≠ .group logic terms

mutual

/-- Whether no list of two or more terms has an inequality, or a group joined by its own word, for a term. -/
def Plain : TestTree → Prop
  | .test _ => True
  | .group logic children => AllPlain children ∧ (1 < children.length → ∀ child ∈ children, child.Stays logic)

def AllPlain : List TestTree → Prop
  | [] => True
  | tree :: rest => tree.Plain ∧ AllPlain rest

end

section Lists

theorem layouts_eq_map (trees : List TestTree) : layouts trees = trees.map layout := by
  induction trees with
  | nil => rfl
  | cons tree rest ih => rw [layouts, ih, List.map_cons]

theorem allWritten_eq_map (trees : List TestTree) : allWritten trees = trees.map written := by
  induction trees with
  | nil => rfl
  | cons tree rest ih => rw [allWritten, ih, List.map_cons]

theorem allFilled_iff {trees : List TestTree} : AllFilled trees ↔ ∀ tree ∈ trees, tree.Filled := by
  induction trees with
  | nil => simp [AllFilled]
  | cons tree rest ih => rw [AllFilled, ih, List.forall_mem_cons]

theorem allPlain_iff {trees : List TestTree} : AllPlain trees ↔ ∀ tree ∈ trees, tree.Plain := by
  induction trees with
  | nil => simp [AllPlain]
  | cons tree rest ih => rw [AllPlain, ih, List.forall_mem_cons]

end Lists

section Core

theorem core_ne_single (tree only : TestTree) : tree.core ≠ .group logic [only] := by
  fun_induction core tree with
  | case1 word inner ih => exact ih
  | case2 tree several =>
    rintro rfl
    exact several logic only rfl

theorem Filled.core {tree : TestTree} (filled : tree.Filled) : tree.core.Filled := by
  fun_induction TestTree.core tree with
  | case1 word inner ih => exact ih filled.2.1
  | case2 tree several => exact filled

theorem spread_ne_nil (logic : Junction) {tree : TestTree} (filled : tree.Filled) : tree.spread logic ≠ [] := by
  cases tree with
  | test atom =>
    rw [spread]
    split <;> simp
  | group inner children =>
    rw [spread]
    have within := filled.core
    split
    · rename_i word terms found
      rw [found] at within
      split
      · exact within.1
      · simp
    · simp

end Core

section Compiling

mutual

/-- The condition that a tree is compiled to. -/
def compiled : TestTree → Cond
  | .test atom => .atom atom
  | .group logic children => .group (Cond.join logic (allCompiled children))

def allCompiled : List TestTree → List Cond
  | [] => []
  | tree :: rest => tree.compiled :: allCompiled rest

end

mutual

/-- The condition whose parentheses are the groups of a tree. -/
def cond : TestTree → Cond
  | .test atom => .atom atom
  | .group logic children =>
    match conds children with
    | [only] => .group only
    | terms => .group (.joined logic terms)

def conds : List TestTree → List Cond
  | [] => []
  | tree :: rest => tree.cond :: conds rest

end

theorem allCompiled_eq_map (trees : List TestTree) : allCompiled trees = trees.map compiled := by
  induction trees with
  | nil => rfl
  | cons tree rest ih => rw [allCompiled, ih, List.map_cons]

theorem conds_eq_map (trees : List TestTree) : conds trees = trees.map cond := by
  induction trees with
  | nil => rfl
  | cons tree rest ih => rw [conds, ih, List.map_cons]

theorem cond_single (logic : Junction) (only : TestTree) : (group logic [only]).cond = .group only.cond := rfl

theorem cond_several {logic : Junction} {children : List TestTree} (several : children.length ≠ 1) :
    (group logic children).cond = .group (.joined logic (children.map cond)) := by
  match children with
  | [] => rfl
  | [only] => exact absurd rfl several
  | first :: second :: rest => rw [cond, conds_eq_map]; rfl

theorem core_cond (tree : TestTree) :
    tree.cond.core =
      match tree.core with
      | .test atom => .atom atom
      | .group logic terms => .joined logic (terms.map cond) := by
  fun_induction core tree with
  | case1 logic only ih => rw [cond_single, Cond.core, ih]
  | case2 tree several =>
    cases tree with
    | test atom => rfl
    | group logic children =>
      have lengths : children.length ≠ 1 := by
        intro single
        obtain ⟨only, rfl⟩ := List.length_eq_one_iff.mp single
        exact several logic only rfl
      rw [cond_several lengths, Cond.core, Cond.core]
      simp

/-- The terms that a tree brings to a list are those of its condition. -/
theorem termsOf_cond (logic : Junction) (tree : TestTree) :
    tree.cond.termsOf logic = (tree.spread logic).map cond := by
  unfold Cond.termsOf
  rw [core_cond]
  cases tree with
  | test atom =>
    rw [core, spread]
    · simp only [cond, Cond.shield_atom]
      split <;> rfl
    · simp
  | group inner children =>
    have shielded : Cond.shield logic (group inner children).cond = (group inner children).cond := by
      rw [cond]
      split <;> rfl
    rw [spread]
    cases (group inner children).core with
    | test atom => simp [shielded]
    | group word terms =>
      simp only [shielded]
      split <;> simp

theorem spread_several (logic : Junction) {parts : List TestTree} (filled : ∀ part ∈ parts, part.Filled) :
    parts.length ≤ (parts.flatMap (spread logic)).length := by
  induction parts with
  | nil => exact Nat.zero_le _
  | cons part rest ih =>
    have some := List.length_pos_iff.mpr (spread_ne_nil logic (filled part (.head _)))
    have others := ih fun other member => filled other (.tail _ member)
    rw [List.flatMap_cons, List.length_append, List.length_cons]
    omega

theorem gather_several {logic : Junction} {parts : List TestTree} (several : parts.length ≠ 1) :
    gather logic parts = .group logic (parts.flatMap (spread logic)) := by
  match parts with
  | [] => rfl
  | [only] => exact absurd rfl several
  | first :: second :: rest => rfl

/-- What is gathered is written as the conditions that are joined. -/
theorem gather_cond {logic : Junction} {parts : List TestTree} (filled : ∀ part ∈ parts, part.Filled) :
    (gather logic parts).cond = .group (Cond.join logic (parts.map cond)) := by
  by_cases single : parts.length = 1
  · obtain ⟨only, rfl⟩ := List.length_eq_one_iff.mp single
    rfl
  · have lengths : (parts.flatMap (spread logic)).length ≠ 1 := by
      have more := spread_several logic filled
      cases parts with
      | nil => simp
      | cons first rest =>
        simp only [List.length_cons] at single more
        omega
    have joined : Cond.join logic (parts.map cond) = .joined logic ((parts.map cond).flatMap (Cond.termsOf logic)) := by
      apply Cond.join.eq_2
      intro only same
      have length := congrArg List.length same
      rw [List.length_map] at length
      exact single length
    rw [gather_several single, cond_several lengths, joined, List.map_flatMap, List.flatMap_map]
    simp only [termsOf_cond]

theorem Filled.spread {logic : Junction} {tree : TestTree} (filled : tree.Filled) :
    ∀ term ∈ tree.spread logic, term.Filled := by
  cases tree with
  | test atom =>
    rw [TestTree.spread]
    split <;> simp [Filled, AllFilled]
  | group inner children =>
    have within := filled.core
    rw [TestTree.spread]
    split
    · rename_i word terms found
      rw [found] at within
      split
      · exact allFilled_iff.mp within.2
      · simpa using filled
    · simpa using filled

theorem Filled.gather {logic : Junction} {parts : List TestTree} (some : parts ≠ [])
    (filled : ∀ part ∈ parts, part.Filled) : (gather logic parts).Filled := by
  by_cases single : parts.length = 1
  · obtain ⟨only, rfl⟩ := List.length_eq_one_iff.mp single
    exact ⟨by simp, filled only (.head _), trivial⟩
  · rw [gather_several single]
    refine ⟨?_, allFilled_iff.mpr ?_⟩
    · have more := spread_several logic filled
      have present := List.length_pos_iff.mpr some
      intro empty
      rw [empty, List.length_nil] at more
      omega
    · intro term member
      obtain ⟨part, found, brought⟩ := List.mem_flatMap.mp member
      exact (filled part found).spread term brought

end Compiling

end TestTree

mutual

theorem TestTree.Filled.written {tree : TestTree} (filled : tree.Filled) : tree.written.Filled := by
  match tree with
  | .test atom => trivial
  | .group logic children =>
    have each := TestTree.AllFilled.written filled.2
    rw [TestTree.written]
    refine .gather ?_ each
    rw [TestTree.allWritten_eq_map]
    simpa using filled.1

theorem TestTree.AllFilled.written {trees : List TestTree} (filled : TestTree.AllFilled trees) :
    ∀ part ∈ TestTree.allWritten trees, part.Filled := by
  match trees with
  | [] => simp [TestTree.allWritten]
  | tree :: rest =>
    rw [TestTree.allWritten, List.forall_mem_cons]
    exact ⟨TestTree.Filled.written filled.1, TestTree.AllFilled.written filled.2⟩

end

mutual

/-- Compiling a tree is writing the parentheses that are described. -/
theorem TestTree.compiled_written {tree : TestTree} (filled : tree.Filled) : tree.compiled = tree.written.cond := by
  match tree with
  | .test atom => rfl
  | .group logic children =>
    have each := TestTree.allCompiled_written filled.2
    rw [TestTree.compiled, TestTree.written, TestTree.gather_cond (TestTree.AllFilled.written filled.2), each]

theorem TestTree.allCompiled_written {trees : List TestTree} (filled : TestTree.AllFilled trees) :
    TestTree.allCompiled trees = (TestTree.allWritten trees).map TestTree.cond := by
  match trees with
  | [] => rfl
  | tree :: rest =>
    rw [TestTree.allCompiled, TestTree.allWritten, List.map_cons, TestTree.compiled_written filled.1,
      TestTree.allCompiled_written filled.2]

end

private theorem intercalate_single {α : Type} (word : α) (items : List α) :
    [word].intercalate (items.map fun item => [item]) = items.intersperse word := by
  induction items with
  | nil => rfl
  | cons first rest ih =>
    cases rest with
    | nil => rfl
    | cons second more =>
      rw [List.map_cons] at ih ⊢
      rw [List.map_cons, List.intercalate_cons_cons, List.intersperse_cons_cons, ← ih]
      rfl

private theorem intersperse_inj {α : Type} {word : α} {first second : List α}
    (same : first.intersperse word = second.intersperse word) : first = second := by
  induction first generalizing second with
  | nil =>
    match second with
    | [] => rfl
    | [other] => cases same
    | other :: next :: more => cases same
  | cons item rest ih =>
    match rest, second with
    | [], [] => cases same
    | [], [other] => exact same
    | [], other :: next :: more => cases same
    | after :: others, [] => cases same
    | after :: others, [other] => cases same
    | after :: others, other :: next :: more =>
      simp only [List.intersperse_cons_cons, List.cons.injEq] at same
      rw [same.1, ih same.2.2]

mutual

/-- The parentheses of the condition of a tree show its groups. -/
theorem TestTree.layout_cond (tree : TestTree) : tree.cond.layout = [tree.layout] := by
  match tree with
  | .test atom => rfl
  | .group logic children =>
    have each := TestTree.layouts_conds children
    rw [TestTree.cond, TestTree.layout]
    split
    · rename_i only found
      rw [found] at each
      obtain ⟨first, present, same⟩ := List.map_eq_singleton_iff.mp each.symm
      rw [present, Cond.layout, ← same]
      rfl
    · rw [Cond.layout, Cond.layout, each, intercalate_single]

theorem TestTree.layouts_conds (trees : List TestTree) :
    Cond.layouts (TestTree.conds trees) = (TestTree.layouts trees).map fun layout => [layout] := by
  match trees with
  | [] => rfl
  | tree :: rest =>
    rw [TestTree.conds, Cond.layouts, TestTree.layouts, List.map_cons, TestTree.layout_cond tree,
      TestTree.layouts_conds rest]

end

namespace TestTree

section Plainness

variable {logic : Junction}

theorem spread_stays {tree : TestTree} (stays : tree.Stays logic) : tree.spread logic = [tree] := by
  cases tree with
  | test atom =>
    rw [Stays] at stays
    rw [spread, stays]
    rfl
  | group inner children =>
    rw [spread]
    split
    · rename_i word terms found
      rw [if_neg]
      rintro rfl
      exact stays terms found
    · rfl

theorem gather_stays {parts : List TestTree} (stays : 1 < parts.length → ∀ part ∈ parts, part.Stays logic) :
    gather logic parts = .group logic parts := by
  match parts with
  | [] => rfl
  | [only] => rfl
  | first :: second :: rest =>
    have single : ∀ part ∈ first :: second :: rest, part.spread logic = [part] :=
      fun part member => spread_stays (stays (by simp) part member)
    rw [gather_several (by simp), List.flatMap_congr single, List.flatMap_singleton']

/-- Lists that are written alike, the terms of one against the other, are so term by term. -/
theorem spread_each {parts children : List TestTree} (filled : ∀ part ∈ parts, part.Filled)
    (lengths : parts.length = children.length)
    (same : (parts.flatMap (spread logic)).map layout = children.map layout) :
    List.Forall₂ (fun part child => ∃ term, part.spread logic = [term] ∧ term.layout = child.layout)
      parts children := by
  induction parts generalizing children with
  | nil =>
    cases children with
    | nil => exact .nil
    | cons child rest => cases lengths
  | cons part others ih =>
    cases children with
    | nil => cases lengths
    | cons child rest =>
      have later := spread_several logic fun other member => filled other (.tail _ member)
      have whole := congrArg List.length same
      obtain ⟨term, more, found⟩ := List.exists_cons_of_ne_nil (spread_ne_nil logic (filled part (.head _)))
      rw [List.flatMap_cons, found] at same whole
      simp only [List.length_map, List.length_append, List.length_cons] at whole lengths
      have single : more = [] := List.length_eq_zero_iff.mp (by omega)
      rw [single, List.map_append, List.map_cons] at same
      obtain ⟨first, after⟩ := List.cons.inj same
      refine .cons ⟨term, by rw [found, single], first⟩ (ih ?_ (by omega) after)
      exact fun other member => filled other (.tail _ member)

end Plainness

end TestTree

mutual

theorem TestTree.Plain.written {tree : TestTree} (plain : tree.Plain) : tree.written = tree := by
  match tree with
  | .test atom => rfl
  | .group logic children =>
    have each := TestTree.AllPlain.written plain.1
    rw [TestTree.written, each, TestTree.gather_stays plain.2]

theorem TestTree.AllPlain.written {trees : List TestTree} (plain : TestTree.AllPlain trees) :
    TestTree.allWritten trees = trees := by
  match trees with
  | [] => rfl
  | tree :: rest =>
    rw [TestTree.allWritten, TestTree.Plain.written plain.1, TestTree.AllPlain.written plain.2]

end

namespace TestTree

theorem gather_group (logic : Junction) (parts : List TestTree) : ∃ terms, gather logic parts = .group logic terms := by
  unfold gather
  split <;> exact ⟨_, rfl⟩

/-- A group that stays one term stays itself, since no list has a single term. -/
theorem spread_single {logic inner : Junction} {children : List TestTree} {term : TestTree}
    (found : (group inner children).spread logic = [term]) :
    term = .group inner children ∧ (group inner children).Stays logic := by
  rw [spread] at found
  split at found
  · rename_i word terms same
    split at found
    · rw [found] at same
      exact absurd same (core_ne_single _ _)
    · rename_i other
      cases found
      refine ⟨rfl, fun terms again => ?_⟩
      rw [same] at again
      cases again
      exact other rfl
  · rename_i atom same
    cases found
    refine ⟨rfl, fun terms again => ?_⟩
    rw [same] at again
    cases again

theorem stays_of_spread {logic : Junction} {tree term : TestTree}
    (plain : tree.written.layout = tree.layout → tree.Plain) (found : tree.written.spread logic = [term])
    (same : term.layout = tree.layout) : tree.Plain ∧ tree.Stays logic := by
  cases tree with
  | test atom =>
    refine ⟨trivial, ?_⟩
    rw [written, spread] at found
    split at found
    · cases found
      cases same
    · rename_i shown
      rw [Stays]
      exact Bool.eq_false_iff.mpr shown
  | group inner children =>
    obtain ⟨terms, gathered⟩ := gather_group inner (allWritten children)
    have shape : (group inner children).written = .group inner terms := by rw [written, gathered]
    rw [shape] at found
    obtain ⟨rfl, stays⟩ := spread_single found
    rw [← shape] at same
    have kept := plain same
    rw [← shape, kept.written] at stays
    exact ⟨kept, stays⟩

end TestTree

mutual

/-- The parentheses show the groups of a tree only when it is plain. -/
theorem TestTree.Filled.plain {tree : TestTree} (filled : tree.Filled) (same : tree.written.layout = tree.layout) :
    tree.Plain := by
  match tree with
  | .test atom => trivial
  | .group logic [] => exact ⟨trivial, by simp⟩
  | .group logic [only] =>
    have inner : only.written.layout = only.layout := by
      simpa [TestTree.written, TestTree.allWritten, TestTree.gather, TestTree.layout, TestTree.layouts] using same
    exact ⟨⟨TestTree.Filled.plain filled.2.1 inner, trivial⟩, by simp⟩
  | .group logic (first :: second :: rest) =>
    have parts := TestTree.AllFilled.written filled.2
    have lengths : (TestTree.allWritten (first :: second :: rest)).length = (first :: second :: rest).length := by
      rw [TestTree.allWritten_eq_map, List.length_map]
    rw [TestTree.written, TestTree.gather_several (by rw [lengths]; simp), TestTree.layout, TestTree.layout] at same
    have terms := intersperse_inj (Layout.enclosed.inj same)
    rw [TestTree.layouts_eq_map, TestTree.layouts_eq_map] at terms
    have each := TestTree.AllFilled.plain filled.2 (TestTree.spread_each parts lengths terms)
    exact ⟨TestTree.allPlain_iff.mpr fun child member => (each child member).1,
      fun _ child member => (each child member).2⟩

theorem TestTree.AllFilled.plain {logic : Junction} {trees : List TestTree} (filled : TestTree.AllFilled trees)
    (each : List.Forall₂ (fun part child => ∃ term, TestTree.spread logic part = [term] ∧ term.layout = child.layout)
      (TestTree.allWritten trees) trees) : ∀ child ∈ trees, child.Plain ∧ child.Stays logic := by
  match trees with
  | [] => simp
  | tree :: rest =>
    obtain ⟨term, found, same⟩ := (List.forall₂_cons.mp each).1
    rw [List.forall_mem_cons]
    refine ⟨TestTree.stays_of_spread (TestTree.Filled.plain filled.1) found same, ?_⟩
    exact TestTree.AllFilled.plain filled.2 (List.forall₂_cons.mp each).2

end

theorem TestTree.Filled.layout_written {tree : TestTree} (filled : tree.Filled) :
    tree.written.layout = tree.layout ↔ tree.Plain :=
  ⟨filled.plain, fun plain => by rw [plain.written]⟩

section Left

/-- The test that a leaf is compiled to, none when it is left out. -/
def FilterLeaf.test? (adapter : Adapter) (leaf : FilterLeaf) : Option Atom :=
  match leaf.outcome adapter with
  | .ok (.predicate test) => some test
  | _ => none

namespace FilterNode

mutual

/-- What is left of a node: its tests, and the groups that hold one. -/
def testTree? (adapter : Adapter) : FilterNode → Option TestTree
  | .leaf content => (content.test? adapter).map .test
  | .group logic children =>
    match testTrees adapter children with
    | [] => none
    | kept => some (.group logic kept)

def testTrees (adapter : Adapter) : List FilterNode → List TestTree
  | [] => []
  | node :: rest => (node.testTree? adapter).toList ++ testTrees adapter rest

end

end FilterNode

variable {adapter : Adapter}

mutual

theorem FilterNode.testTree_filled {node : FilterNode} : ∀ tree ∈ node.testTree? adapter, tree.Filled := by
  match node with
  | .leaf content =>
    intro tree found
    rw [FilterNode.testTree?] at found
    obtain ⟨test, _, rfl⟩ := Option.map_eq_some_iff.mp found
    trivial
  | .group logic children =>
    have each : ∀ tree ∈ FilterNode.testTrees adapter children, tree.Filled := FilterNode.testTrees_filled
    intro tree found
    rw [FilterNode.testTree?] at found
    split at found
    · cases found
    · rename_i some
      cases found
      exact ⟨some, TestTree.allFilled_iff.mpr each⟩

theorem FilterNode.testTrees_filled {nodes : List FilterNode} :
    ∀ tree ∈ FilterNode.testTrees adapter nodes, tree.Filled := by
  match nodes with
  | [] => simp [FilterNode.testTrees]
  | node :: rest =>
    rw [FilterNode.testTrees, List.forall_mem_append]
    refine ⟨?_, FilterNode.testTrees_filled⟩
    intro tree member
    exact FilterNode.testTree_filled tree (Option.mem_toList.mp member)

end

theorem Sql.Clause.join_conds {logic : Junction} {conds : List Cond} (some : conds ≠ []) :
    Clause.join logic (conds.map Clause.cond) = .cond (Cond.join logic conds) := by
  match conds with
  | [] => exact absurd rfl some
  | [only] => rfl
  | first :: second :: rest =>
    have undecided : ((first :: second :: rest).map Clause.cond).any (Clause.decides logic) = false := by
      rw [List.any_map]
      exact List.any_eq_false.mpr fun condition _ => by simp [Clause.decides]
    have all : ((first :: second :: rest).map Clause.cond).filterMap Clause.cond? = first :: second :: rest := by
      rw [List.filterMap_map]
      exact List.filterMap_some
    rw [Clause.join.eq_2 _ _ (by simp), undecided, all]
    rfl

theorem Store.alternatives_and_uniform {α : Type} {entries : List (Junction × α)} (uniform : Uniform .and entries)
    (some : entries ≠ []) : Store.alternatives entries = [entries.map Prod.snd] := by
  induction entries with
  | nil => exact absurd rfl some
  | cons head rest ih =>
    match rest with
    | [] => rfl
    | (junction, next) :: more =>
      have same : junction = .and := uniform (junction, next) (by simp)
      subst same
      rw [Store.alternatives_and head.1 (ih uniform.tail (by simp))]
      rfl

/-- Conditions that one word joins fold to the list of them. -/
theorem Store.fold_conds (logic : Junction) {conds : List Cond} (some : conds ≠ []) :
    Store.fold (conds.map fun condition => (logic, Clause.cond condition)) =
      Option.some (.cond (Cond.join logic conds)) := by
  have uniform := uniform_map logic Clause.cond conds
  have present : (conds.map fun condition => (logic, Clause.cond condition)) ≠ [] := by simpa using some
  unfold Store.fold
  cases logic with
  | and =>
    rw [Store.alternatives_and_uniform uniform present, List.map_map]
    exact congrArg Option.some (Clause.join_conds some)
  | or =>
    rw [Store.alternatives_or_uniform uniform, List.map_map]
    have alone : (conds.map ((fun entry => [entry.2]) ∘ fun condition => (Junction.or, Clause.cond condition))).map
        (Clause.join .and) = conds.map Clause.cond := by
      rw [List.map_map]
      rfl
    split
    · rename_i none
      exact absurd (List.map_eq_nil_iff.mp none) some
    · rw [alone, Clause.join_conds some]

mutual

theorem FilterNode.additions_clauses {node : FilterNode} {junction : Junction} {forest : Forest}
    (added : node.additions adapter junction = .ok forest) :
    forest.clauses = (node.testTree? adapter).toList.map fun tree => (junction, .cond tree.compiled) := by
  match node with
  | .leaf content =>
    rw [FilterNode.additions] at added
    obtain ⟨outcome, found, added⟩ := Except.bind_ok added
    rw [FilterNode.testTree?, FilterLeaf.test?, found]
    cases outcome with
    | skipped reason =>
      cases added
      rfl
    | predicate test =>
      cases added
      rfl
  | .group logic children =>
    rw [FilterNode.additions] at added
    obtain ⟨inner, found, same⟩ := Except.bind_ok added
    cases same
    have each := FilterNode.allAdditions_clauses found
    rw [Forest.clauses, Forest.clauses, PredicateTree.clause?, each, FilterNode.testTree?]
    cases kept : FilterNode.testTrees adapter children with
    | nil => rfl
    | cons first rest =>
      have some : (first :: rest).map TestTree.compiled ≠ [] := by simp
      have folded := Store.fold_conds logic some
      rw [List.map_map] at folded
      simp only [Function.comp_def] at folded
      rw [folded, ← TestTree.allCompiled_eq_map]
      rfl

theorem FilterNode.allAdditions_clauses {nodes : List FilterNode} {junction : Junction} {forest : Forest}
    (added : FilterNode.allAdditions adapter junction nodes = .ok forest) :
    forest.clauses = (FilterNode.testTrees adapter nodes).map fun tree => (junction, .cond tree.compiled) := by
  match nodes with
  | [] =>
    cases added
    rfl
  | node :: rest =>
    rw [FilterNode.allAdditions] at added
    obtain ⟨first, one, added⟩ := Except.bind_ok added
    obtain ⟨others, more, same⟩ := Except.bind_ok added
    cases same
    rw [Forest.clauses_append, FilterNode.additions_clauses one, FilterNode.allAdditions_clauses more,
      FilterNode.testTrees, List.map_append]

end

end Left

namespace FilterTree

variable {tree : FilterTree} {log : Log} {adapter : Adapter} {id : Nat} {store : Store} {after : Scope}

/-- The parentheses that a compiled tree is written with in an empty group. Where something is left of the tree, they
show the tree that is described, and this shows the groups of what is left, each with its children in order between its
own words, exactly when the tree is plain. -/
theorem compile_nesting (closed : store.Closed) (inside : id < store.size) (empty : store.entries id = [])
    (ran : tree.compile adapter id ⟨store, log⟩ = (.ok (), after)) :
    ∃ found : Option Cond,
      Outcome (after.store.clause? id) (found.map Clause.cond) (stepLimit / 3 ≤ tree.toNode.depth) False ∧
      (∀ condition ∈ found, ∀ dialect, condition.steps ≤ stepLimit →
        condition.written dialect = condition.outline.flatMap (Token.pieces dialect)) ∧
      match tree.toNode.testTree? adapter with
      | none => found = none
      | some kept =>
        ∃ condition, found = some condition ∧ Layout.read? condition.outline = some [kept.written.layout] ∧
          (Layout.read? condition.outline = some [kept.layout] ↔ kept.Plain) := by
  obtain ⟨forest, added, shut, unfolds⟩ := compile_unfolds closed inside empty ran
  have outcome := unfolds.clause_of_tests shut (FilterNode.additions_adds added).tests
  have clauses := FilterNode.additions_clauses added
  have height := FilterNode.additions_height added
  have folded : forest.clause? = ((tree.toNode.testTree? adapter).map TestTree.compiled).map Clause.cond := by
    rw [Forest.clause?, clauses]
    cases tree.toNode.testTree? adapter <;> rfl
  refine ⟨(tree.toNode.testTree? adapter).map TestTree.compiled, ?_, ?_, ?_⟩
  · rw [← folded]
    apply outcome.weaken
    · intro deep
      omega
    · exact fun impossible => impossible
  · exact fun condition _ dialect => condition.written_outline dialect
  · cases kept : tree.toNode.testTree? adapter with
    | none => rfl
    | some kept' =>
      have filled := FilterNode.testTree_filled kept' kept
      have read : Layout.read? kept'.compiled.outline = some [kept'.written.layout] := by
        rw [Cond.read_outline, TestTree.compiled_written filled, TestTree.layout_cond]
      refine ⟨_, rfl, read, ?_⟩
      rw [read, ← filled.layout_written]
      simp

private def flattened : FilterTree :=
  ⟨.and, [leaf "a" 1, .group .and [leaf "b" 2, leaf "c" 3]]⟩
where
  leaf (field : String) (value : Int) : FilterNode := .leaf ⟨.text field, .text "eq", .int value⟩

private def flattenedTests : TestTree :=
  .group .and [test "a" 1, .group .and [test "b" 2, test "c" 3]]
where
  test (field : String) (value : Int) : TestTree := .test (.compare (.literal field) .equal (.int value))

/-- A group inside a group of the same logic: its parentheses are not written. -/
theorem compile_nesting_flattened :
    ∃ after condition, flattened.compile ⟨.sqlite, .generic⟩ 0 ⟨(Store.fresh {}).2, []⟩ = (.ok (), after) ∧
      after.store.clause? 0 = .ok (some (.cond condition)) ∧
      flattened.toNode.testTree? ⟨.sqlite, .generic⟩ = some flattenedTests ∧
      Layout.read? condition.outline ≠ some [flattenedTests.layout] := by
  have left : flattened.toNode.testTree? ⟨.sqlite, .generic⟩ = some flattenedTests := rfl
  have nested : ¬ flattenedTests.Plain := by
    rintro ⟨_, stays⟩
    exact stays (by decide) _ (.tail _ (.head _)) _ rfl
  have done : (flattened.compile ⟨.sqlite, .generic⟩ 0 ⟨(Store.fresh {}).2, []⟩).1.isOk = true := by decide +kernel
  have shallow : ¬ stepLimit / 3 ≤ flattened.toNode.depth := by decide +kernel
  obtain ⟨_, ran⟩ := Action.ran_of_isOk done
  obtain ⟨found, outcome, _, shown⟩ := compile_nesting Store.Closed.empty.fresh (by decide) rfl ran
  rw [left] at shown
  obtain ⟨condition, rfl, _, plain⟩ := shown
  refine ⟨_, condition, ran, ?_, left, fun same => nested (plain.mp same)⟩
  rcases outcome with done | ⟨_, deep⟩ | ⟨_, impossible⟩
  · exact done
  · exact absurd deep shallow
  · exact impossible.elim

end FilterTree

end DataGrid
