import DataGrid.Proofs.RegexMatching
import DataGrid.Search

/-! The search of a column by a regular expression when case does not count and the database has no operator for that.
Column and pattern are put in lower case, which keeps what most patterns find; an escape in capitals comes to stand for
its class instead of for what lies outside. -/

namespace DataGrid

open Sql Text Regex

/-- Whether lower case goes character by character and keeps every character in its classes. -/
def Text.Foldable (chars : List Char) : Prop := Simple chars ∧ kelvin ∉ chars

instance (chars : List Char) : Decidable (Foldable chars) := inferInstanceAs (Decidable (_ ∧ _))

theorem Text.Foldable.lower {chars : List Char} (foldable : Foldable chars) : lower chars = chars.map lowerChar := by
  simpa [Text.lower, lowerFrom] using lowerFrom_simple foldable.1 [] []

section Patterns

variable {pattern : String}

theorem read_lowerString (foldable : Foldable pattern.toList) :
    Regex.read (lowerString pattern).toList = (Regex.read pattern.toList).map (Regex.map Leaf.lowered) := by
  rw [lowerString, String.toList_ofList, foldable.lower, read_lowered foldable.2]

variable {classes : CharClasses} {text : List Char} {expression : Regex Leaf}

theorem matches_lowerString (foldable : Foldable pattern.toList) (reads : Regex.read pattern.toList = some expression)
    (faithful : ∀ leaf ∈ expression.leaves, leaf.Faithful) (plain : Foldable text) :
    Matches classes id (lowerString pattern).toList (lower text) ↔
      Found classes lowerChar text (expression.map Leaf.small) := by
  rw [Matches, read_lowerString foldable, reads, plain.lower]
  simp only [Option.map_some, Option.some.injEq, exists_eq_left', found_lowered faithful plain.2]

end Patterns

namespace Search

variable {search : Search} {query : Query} {column : Column}

/-- What a column is asked for by a regular expression. The bound pattern is read as the typed one with each leaf in
lower case, so it finds in a text in lower case what the typed one, its capital escapes made small, finds ignoring
case; and what the typed one finds where it has no such escape. -/
theorem ownTest_regex (regex : column.isRegex = true) (folds : search.config.caseInsensitive.truthy = true)
    (family : query.adapter.family = .generic ∨ query.adapter.family = .mysql)
    (foldable : Foldable column.searchValue.toList) (name : String) :
    ∃ bound, search.ownTest query column name =
        .ok (.atom (.regexp (.lower (query.adapter.column name)) "REGEXP" bound)) ∧
      Regex.read bound.toList = (Regex.read column.searchValue.toList).map (Regex.map Leaf.lowered) ∧
      ∀ expression, Regex.read column.searchValue.toList = some expression →
        (∀ leaf ∈ expression.leaves, leaf.Faithful) → ∀ (classes : CharClasses) (text : List Char), Foldable text →
          (Matches classes id bound.toList (lower text) ↔
            Found classes lowerChar text (expression.map Leaf.small)) ∧
          ((∀ leaf ∈ expression.leaves, leaf.small = leaf) →
            (Matches classes id bound.toList (lower text) ↔
              Matches classes lowerChar column.searchValue.toList text)) := by
  refine ⟨lowerString column.searchValue, ?_, read_lowerString foldable, ?_⟩
  · rw [ownTest, if_pos regex]
    rcases family with generic | mysql
    · simp only [folds, Adapter.regexp, generic, if_true]
    · simp only [folds, Adapter.regexp, mysql, if_true]
  · intro expression reads faithful classes text plain
    have found : Matches classes id (lowerString column.searchValue).toList (lower text) ↔ _ :=
      matches_lowerString foldable reads faithful plain
    refine ⟨found, fun small => ?_⟩
    rw [found, map_eq_self small, Matches, reads]
    simp only [Option.some.injEq, exists_eq_left']

private def shelfSearch : Search :=
  { request := ⟨.null⟩, config := {}, registry := {}, paths := [], overrides := [], excludes := fun _ => false }

private def books : Query := Query.ofSelect Select.empty .sqlite false

private def shelfColumn : Column := ⟨"shelf", "shelf", true, true, .null, .null, "[A-C]\\d", true⟩

private def shelf : Regex Leaf :=
  .sequence (.sequence .empty (.leaf (.oneOf false [.range 'A' 'C']))) (.leaf (.oneOf false [.escape .digit false]))

theorem ownTest_regex_shelf :
    ∃ bound, shelfSearch.ownTest books shelfColumn "shelf" =
        .ok (.atom (.regexp (.lower (.literal "shelf")) "REGEXP" bound)) ∧
      Matches .basic id bound.toList (lower "b7".toList) := by
  have reads : Regex.read shelfColumn.searchValue.toList = some shelf := by decide
  have faithful : ∀ leaf ∈ shelf.leaves, leaf.Faithful := by
    rintro leaf (_ | ⟨_, _ | ⟨_, ⟨⟩⟩⟩)
    · exact List.forall_mem_singleton.mpr (Member.faithful_capitals (by decide) (by decide) (by decide))
    · exact List.forall_mem_singleton.mpr trivial
  have small : ∀ leaf ∈ shelf.leaves, leaf.small = leaf := by decide
  have found : Matches .basic lowerChar shelfColumn.searchValue.toList "b7".toList := by
    refine ⟨shelf, reads, 0, 2, by decide, 1, ⟨0, rfl, rfl, 'b', rfl, ?_⟩, rfl, '7', rfl, ?_⟩
    · exact iff_of_true ⟨_, List.mem_singleton_self _, 'B', by decide, by decide, by decide⟩ rfl
    · exact iff_of_true ⟨_, List.mem_singleton_self _, iff_of_true rfl rfl⟩ rfl
  obtain ⟨bound, made, _, folds⟩ :=
    @ownTest_regex shelfSearch books shelfColumn rfl rfl (.inl rfl) (by decide) "shelf"
  exact ⟨bound, made, ((folds shelf reads faithful .basic _ (by decide)).2 small).mpr found⟩

end Search

section Capitals

/-- The escape of the characters outside a class. -/
def CharClass.capital : CharClass → Char
  | .digit => 'D'
  | .blank => 'S'
  | .word => 'W'

variable {kind : CharClass} {classes : CharClasses} {text : List Char}

theorem read_capital (kind : CharClass) :
    Regex.read ['\\', kind.capital] = some (.sequence .empty (.leaf (.oneOf false [.escape kind true]))) := by
  cases kind <;> rfl

/-- An escape in capitals is found in the texts with a character outside its class. -/
theorem matches_capital {view : Char → Char} :
    Matches classes view ['\\', kind.capital] text ↔ ∃ c ∈ text, classes.holds kind c = false := by
  simp [Matches, read_capital, found_oneOf, Member.Holds]

/-- Its pattern in lower case is found in the texts with a character inside the class, be the others as they may. -/
theorem matches_lower_capital (plain : Foldable text) :
    Matches classes id (lowerString (String.ofList ['\\', kind.capital])).toList (lower text) ↔
      ∃ c ∈ text, classes.holds kind c = true := by
  have reads : Regex.read (String.ofList ['\\', kind.capital]).toList = _ :=
    (congrArg Regex.read (String.toList_ofList ..)).trans (read_capital kind)
  have foldable : Foldable (String.ofList ['\\', kind.capital]).toList := by cases kind <;> decide
  rw [matches_lowerString foldable reads (by simp [leaves, Leaf.Faithful, Member.Faithful]) plain]
  exact found_oneOf.trans (by simp [Member.small, Member.Holds])

end Capitals

end DataGrid
