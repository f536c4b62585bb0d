import DataGrid.Refresh.Pass
import DataGrid.Proofs.ColumnSearch
import DataGrid.Proofs.TreeFilter

/-! What the passes of a refresh add to the root of its query, one after the other: the global search, the script
of the caller, the search by the columns' own keywords, and the filter tree. What a pass adds depends on the
settings and on the base of the query, not on what the passes before it added. -/

namespace DataGrid

open Sql

namespace Refresh

/-- A pass appends a forest to the root of the query, and leaves the settings that filter alone. -/
structure Grows (before after : Refresh) (forest : Forest) : Prop where
  search : after.search = before.search
  script : after.filterScript = before.filterScript
  query : before.query.Grows after.query forest

variable {before between after : Refresh} {first second forest : Forest}

theorem Grows.refl (refresh : Refresh) : Grows refresh refresh [] := ⟨rfl, rfl, .refl _⟩

theorem Grows.trans (formed : before.query.Formed) (one : Grows before between first)
    (other : Grows between after second) : Grows before after (first ++ second) :=
  ⟨other.search.trans one.search, other.script.trans one.script, one.query.trans formed other.query⟩

/-- What is noted goes to the log alone. -/
theorem note_ok {pass : String} {result : PUnit} (ran : note pass before = (.ok result, after)) :
    ∃ log, after = { before with log := log } := by
  obtain ⟨_, _, read, ran⟩ := Action.bind_ok ran
  cases read
  split at ran
  · obtain ⟨text, _, written, ran⟩ := Action.bind_ok ran
    obtain ⟨_, rfl⟩ := Action.lift_ok written
    cases ran
    exact ⟨_, rfl⟩
  · cases ran
    exact ⟨_, rfl⟩

theorem note_grows {pass : String} {result : PUnit} (ran : note pass before = (.ok result, after)) :
    Grows before after [] := by
  obtain ⟨log, rfl⟩ := note_ok ran
  exact ⟨rfl, rfl, .refl _⟩

theorem count_grows {result : Int} (ran : count before = (.ok result, after)) : Grows before after [] := by
  obtain ⟨_, _, read, ran⟩ := Action.bind_ok ran
  cases read
  obtain ⟨statement, _, made, ran⟩ := Action.bind_ok ran
  obtain ⟨_, rfl⟩ := Action.lift_ok made
  obtain ⟨answer, middle, sent, ran⟩ := Action.bind_ok ran
  have same : Grows before middle [] := by
    obtain ⟨database, _, rfl⟩ := Action.on_ok sent
    exact ⟨rfl, rfl, .refl _⟩
  split at ran
  · obtain ⟨_, rfl⟩ := Action.lift_ok ran
    exact same
  · cases ran
    exact same

theorem totalCount_grows {result : Int} (ran : totalCount before = (.ok result, after)) : Grows before after [] := by
  obtain ⟨_, _, read, ran⟩ := Action.bind_ok ran
  cases read
  cases known : before.total with
  | some total =>
    simp only [known] at ran
    cases ran
    exact .refl _
  | none =>
    simp only [known] at ran
    obtain ⟨total, middle, counted, ran⟩ := Action.bind_ok ran
    obtain ⟨_, _, stored, ran⟩ := Action.bind_ok ran
    cases stored
    cases ran
    have same := count_grows counted
    exact ⟨same.search, same.script, same.query⟩

theorem runSearch_grows {pass : Search → Action Searching Unit} {result : PUnit}
    (ran : runSearch pass before = (.ok result, after)) :
    ∃ final : Searching, pass before.search { query := before.query } = (.ok (), final) ∧
      ∀ forest, before.query.Grows final.query forest → Grows before after forest := by
  obtain ⟨_, _, read, ran⟩ := Action.bind_ok ran
  cases read
  obtain ⟨applied, _, searched, ran⟩ := Action.bind_ok ran
  obtain ⟨final, inner, rfl⟩ := Action.on_ok searched
  obtain ⟨_, _, passed, done⟩ := Action.bind_ok inner
  cases ran
  refine ⟨_, passed, ?_⟩
  intro forest grown
  obtain ⟨_, _, read, done⟩ := Action.bind_ok done
  cases read
  cases done
  exact ⟨rfl, rfl, grown⟩

def globalAdditions (refresh : Refresh) : Except Error Forest := do
  if refresh.searchesAll then
    if ← refresh.request.isSearchable then
      let word ← refresh.request.keyword
      return (← (refresh.config.terms word).mapM (refresh.search.alternatives refresh.query)).map Search.termGroup
  return []

def scriptAdditions (refresh : Refresh) : Except Error Forest :=
  match refresh.filterScript with
  | none => .ok []
  | some script => QueryStep.allAdditions refresh.query.adapter script

def treeAdditions (refresh : Refresh) : Except Error Forest := do
  match ← (FilterTree.ofValue (← refresh.request.filters)).1 with
  | none => return []
  | some tree => tree.toNode.additions refresh.query.adapter .and

/-- What each pass adds to the root: the groups of the global search, what the script of the caller adds, the
condition of each column with a keyword of its own, and the filter tree. -/
def parts (refresh : Refresh) : Except Error (List Forest) := do
  let searched ← refresh.globalAdditions
  let scripted ← refresh.scriptAdditions
  let own ← refresh.search.ownAdditions refresh.query
  let filtered ← refresh.treeAdditions
  return searched :: scripted :: own.map (fun entry => [entry]) ++ [filtered]

theorem globalSearch_grows {result : PUnit} (formed : before.query.Formed)
    (ran : globalSearch before = (.ok result, after)) :
    ∃ word terms, before.request.keyword = .ok word ∧
      (before.config.terms word).mapM (before.search.alternatives before.query) = .ok terms ∧
      Grows before after (terms.map Search.termGroup) := by
  obtain ⟨_, middle, searched, noted⟩ := Action.bind_ok ran
  obtain ⟨final, passed, grows⟩ := runSearch_grows searched
  obtain ⟨word, terms, asked, read, appended⟩ := Search.runGlobal_appends formed.root passed
  have grown : before.query.Grows final.query (terms.map Search.termGroup) := by
    rw [appended.query]
    exact Query.grows_of_store appended.store
  have noted := (grows _ grown).trans formed (note_grows noted)
  exact ⟨word, terms, asked, read, by simpa using noted⟩

theorem columnSearch_grows {result : PUnit} (formed : before.query.Formed)
    (ran : columnSearch before = (.ok result, after)) :
    ∃ forest, before.search.ownAdditions before.query = .ok forest ∧ Grows before after forest := by
  obtain ⟨_, middle, searched, noted⟩ := Action.bind_ok ran
  obtain ⟨final, passed, grows⟩ := runSearch_grows searched
  obtain ⟨forest, read, grown⟩ := Search.runOwn_grows formed passed
  have noted := (grows _ grown).trans formed (note_grows noted)
  exact ⟨forest, read, by simpa using noted⟩

theorem scriptFilter_grows {result : PUnit} (formed : before.query.Formed)
    (ran : scriptFilter before = (.ok result, after)) :
    ∃ forest, before.scriptAdditions = .ok forest ∧ Grows before after forest := by
  obtain ⟨_, _, read, ran⟩ := Action.bind_ok ran
  cases read
  cases found : before.filterScript with
  | none =>
    simp only [found] at ran
    cases ran
    exact ⟨[], by rw [scriptAdditions, found], .refl _⟩
  | some script =>
    simp only [found] at ran
    obtain ⟨_, _, filtered, ran⟩ := Action.bind_ok ran
    obtain ⟨query, inner, rfl⟩ := Action.on_ok filtered
    cases ran
    obtain ⟨forest, read, grown⟩ := QueryStep.runAll_grows formed inner
    exact ⟨forest, by simp only [scriptAdditions, found, read], rfl, rfl, grown⟩

theorem treeFilter_grows {result : PUnit} (formed : before.query.Formed)
    (ran : treeFilter before = (.ok result, after)) :
    ∃ forest, before.treeAdditions = .ok forest ∧ Grows before after forest := by
  obtain ⟨_, _, read, ran⟩ := Action.bind_ok ran
  cases read
  obtain ⟨value, _, asked, ran⟩ := Action.bind_ok ran
  obtain ⟨sent, rfl⟩ := Action.lift_ok asked
  obtain ⟨tree, _, understood, ran⟩ := Action.bind_ok ran
  obtain ⟨_, _, noted, understood⟩ := Action.bind_ok understood
  cases noted
  obtain ⟨parsed, rfl⟩ := Action.lift_ok understood
  change (FilterTree.ofValue value).1 = .ok tree at parsed
  cases tree with
  | none =>
    cases ran
    refine ⟨[], ?_, rfl, rfl, .refl _⟩
    simp only [treeAdditions, sent, parsed, Except.ok_bind]
    rfl
  | some tree =>
    obtain ⟨_, _, read, ran⟩ := Action.bind_ok ran
    cases read
    obtain ⟨_, _, compiled, ran⟩ := Action.bind_ok ran
    obtain ⟨scope, inner, rfl⟩ := Action.on_ok compiled
    obtain ⟨_, _, marked, ran⟩ := Action.bind_ok ran
    cases marked
    obtain ⟨forest, read, appended⟩ := FilterNode.compile_appends formed.root inner
    have done := note_grows ran
    refine ⟨forest, ?_, done.search, done.script, ?_⟩
    · simp only [treeAdditions, sent, parsed, Except.ok_bind]
      exact read
    · have grown : before.query.Grows { before.query with store := scope.store } forest := Query.grows_of_store appended
      simpa using grown.trans formed done.query

private theorem scriptAdditions_congr (grown : Grows before after forest) :
    after.scriptAdditions = before.scriptAdditions := by
  rw [scriptAdditions, scriptAdditions, grown.script, grown.query.adapter]

private theorem treeAdditions_congr (grown : Grows before after forest) :
    after.treeAdditions = before.treeAdditions := by
  have request : after.request = before.request := congrArg Search.request grown.search
  rw [treeAdditions, treeAdditions, request, grown.query.adapter]

private theorem ownAdditions_congr (grown : Grows before after forest) :
    after.search.ownAdditions after.query = before.search.ownAdditions before.query := by
  have same : before.search.ownAddition after.query = before.search.ownAddition before.query :=
    funext (Search.ownAddition_congr grown.query.base grown.query.adapter)
  rw [grown.search, Search.ownAdditions, Search.ownAdditions, same]

def searchPass : Action Refresh Unit := do
  let refresh ← get
  if refresh.searchesAll then
    if ← liftM refresh.request.isSearchable then globalSearch

/-- The passes after the global search, and the count of the rows that are left. -/
def laterPasses : Action Refresh Unit := do
  scriptFilter
  columnSearch
  treeFilter
  let filtered ← if (← get).applied then count else totalCount
  modify fun refresh => { refresh with filtered := some filtered }

theorem filterRows_eq (before : Refresh) :
    filterRows before = (searchPass >>= fun _ => laterPasses) before := by
  have passes : filterRows before =
      (if before.searchesAll then
        (liftM before.request.isSearchable : Action Refresh Bool) >>= fun searchable =>
          if searchable then globalSearch >>= fun _ => laterPasses else laterPasses
      else laterPasses) before := rfl
  have search : (searchPass >>= fun _ => laterPasses) before =
      ((if before.searchesAll then
        (liftM before.request.isSearchable : Action Refresh Bool) >>= fun searchable =>
          if searchable then globalSearch else pure ()
      else pure ()) >>= fun _ => laterPasses) before := rfl
  rw [passes, search]
  cases before.searchesAll with
  | false => rfl
  | true =>
    cases asked : before.request.isSearchable with
    | error failure => rfl
    | ok searchable => cases searchable <;> rfl

private theorem searchPass_grows {result : Unit} (formed : before.query.Formed)
    (ran : searchPass before = (.ok result, after)) :
    ∃ forest, before.globalAdditions = .ok forest ∧ Grows before after forest := by
  obtain ⟨_, _, read, ran⟩ := Action.bind_ok ran
  cases read
  cases all : before.searchesAll with
  | false =>
    simp only [all] at ran
    cases ran
    exact ⟨[], by simp only [globalAdditions, all]; rfl, .refl _⟩
  | true =>
    simp only [all] at ran
    obtain ⟨searchable, _, asked, ran⟩ := Action.bind_ok ran
    obtain ⟨known, rfl⟩ := Action.lift_ok asked
    cases searchable with
    | false =>
      cases ran
      refine ⟨[], ?_, .refl _⟩
      simp only [globalAdditions, all, known, Except.ok_bind]
      rfl
    | true =>
      obtain ⟨word, terms, asked, read, grown⟩ := globalSearch_grows formed ran
      refine ⟨terms.map Search.termGroup, ?_, grown⟩
      simp only [globalAdditions, all, known, asked, read, Except.ok_bind]
      rfl

private theorem laterPasses_grows {result : Unit} (formed : before.query.Formed)
    (ran : laterPasses before = (.ok result, after)) :
    ∃ scripted own filtered, before.scriptAdditions = .ok scripted ∧
      before.search.ownAdditions before.query = .ok own ∧ before.treeAdditions = .ok filtered ∧
      Grows before after (scripted ++ (own ++ filtered)) := by
  obtain ⟨_, second, ran₁, ran⟩ := Action.bind_ok ran
  obtain ⟨scripted, read₁, grown₁⟩ := scriptFilter_grows formed ran₁
  have formed₁ := grown₁.query.formed formed
  obtain ⟨_, third, ran₂, ran⟩ := Action.bind_ok ran
  -- Each pass is read off the state that it starts in, and then traced back to the first one.
  obtain ⟨own, read₂, grown₂⟩ := columnSearch_grows formed₁ ran₂
  rw [ownAdditions_congr grown₁] at read₂
  have formed₂ := grown₂.query.formed formed₁
  obtain ⟨_, fourth, ran₃, ran⟩ := Action.bind_ok ran
  obtain ⟨filtered, read₃, grown₃⟩ := treeFilter_grows formed₂ ran₃
  have both := grown₁.trans formed grown₂
  rw [treeAdditions_congr both] at read₃
  have counted : Grows fourth after [] := by
    obtain ⟨_, _, read, ran⟩ := Action.bind_ok ran
    cases read
    split at ran
    · obtain ⟨number, _, counted, ran⟩ := Action.bind_ok ran
      cases ran
      have same := count_grows counted
      exact ⟨same.search, same.script, same.query⟩
    · obtain ⟨number, _, counted, ran⟩ := Action.bind_ok ran
      cases ran
      have same := totalCount_grows counted
      exact ⟨same.search, same.script, same.query⟩
  refine ⟨scripted, own, filtered, read₁, read₂, read₃, ?_⟩
  have all := grown₁.trans formed (grown₂.trans formed₁ (grown₃.trans formed₂ counted))
  simpa using all

/-- The filtering of a refresh appends the parts of its passes to the root, in their order. -/
theorem filterRows_grows {result : Unit} (formed : before.query.Formed)
    (ran : filterRows before = (.ok result, after)) :
    ∃ parts, before.parts = .ok parts ∧ Grows before after parts.flatten := by
  rw [filterRows_eq] at ran
  obtain ⟨_, middle, searched, later⟩ := Action.bind_ok ran
  obtain ⟨groups, read, grown⟩ := searchPass_grows formed searched
  obtain ⟨scripted, own, filtered, read₁, read₂, read₃, rest⟩ := laterPasses_grows (grown.query.formed formed) later
  rw [scriptAdditions_congr grown] at read₁
  rw [ownAdditions_congr grown] at read₂
  rw [treeAdditions_congr grown] at read₃
  refine ⟨groups :: scripted :: own.map (fun entry => [entry]) ++ [filtered], ?_, ?_⟩
  · simp only [parts, read, read₁, read₂, read₃, Except.ok_bind]
    rfl
  · have single : (own.map fun entry => [entry]).flatten = own := by simp [← List.flatMap_def]
    simpa [single] using grown.trans formed rest

end Refresh

end DataGrid
