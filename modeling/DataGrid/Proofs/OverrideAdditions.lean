import DataGrid.Override
import DataGrid.Proofs.ScriptTrees

/-! What a named override adds to a group: one entry, joined by the word of its operation. In the search over
all columns that word is `or`, whatever operation was named. -/

namespace DataGrid

open Sql

namespace GroupMethod

variable {adapter : Adapter} {arguments : List Argument} {entry : Entry}

def word (method : GroupMethod) (arguments : List Argument) : Value :=
  let argument (index : Nat) : Value := (arguments.map Argument.toValue).getD index (.text "and")
  match method with
  | .compare => argument 3
  | .orCompare | .orRaw => .text "or"
  | .raw | .member => argument 2
  | .null | .notNull => argument 1

theorem entry_word {method : GroupMethod} {found : Value} (made : method.entry adapter arguments = .ok (entry, found)) :
    found = method.word arguments := by
  cases method
  all_goals
    obtain ⟨_, _, made⟩ := Except.bind_ok made
    obtain ⟨_, _, same⟩ := Except.bind_ok made
    cases same
    rfl

end GroupMethod

namespace NamedOverride

variable {override : NamedOverride} {adapter : Adapter} {column keyword : String} {useOr : Bool}

/-- What an override adds to a group. -/
def addition (override : NamedOverride) (adapter : Adapter) (column keyword : String) (useOr : Bool) :
    Except Error (Junction × PredicateTree) := do
  let operation := override.running useOr
  checkArity operation override.template
  let (method, arguments) ← groupCall operation (override.arguments operation column keyword)
  method.addition adapter (arguments.map .value)

theorem applyToGroup_appends {id : Nat} {store grown : Store} (inside : id < store.size)
    (applied : override.applyToGroup adapter id column keyword useOr store = .ok grown) :
    ∃ entry, override.addition adapter column keyword useOr = .ok entry ∧ Store.Appends id store grown [entry] := by
  obtain ⟨_, accepted, applied⟩ := Except.bind_ok applied
  obtain ⟨⟨method, arguments⟩, chosen, called⟩ := Except.bind_ok applied
  obtain ⟨entry, added, appended⟩ := Store.call_appends inside called
  refine ⟨entry, ?_, appended⟩
  simp only [addition, accepted, chosen, Except.ok_bind]
  exact added

theorem or_junction : Value.toJunction (.text "or") = .ok .or := by decide

theorem alternative_word {operation : Operation} {given arguments : List Value} {method : GroupMethod}
    (chosen : groupCall operation.alternative given = .ok (method, arguments)) :
    method.word (arguments.map .value) = .text "or" := by
  cases operation with
  | compare | orCompare | raw | orRaw =>
    cases chosen
    rfl
  | member | orMember =>
    match given with
    | column :: values :: rest =>
      cases chosen
      rfl
    | [_] | [] => cases chosen
  | null | orNull | notNull | orNotNull =>
    match given with
    | column :: rest =>
      cases chosen
      rfl
    | [] => cases chosen
  | orderBy => cases chosen
  | orderByRaw =>
    match given with
    | _ :: _ | [] => cases chosen

/-- The alternative of an operation joins its condition by `or`. -/
theorem addition_or {entry : Junction × PredicateTree}
    (added : override.addition adapter column keyword true = .ok entry) : entry.1 = .or := by
  obtain ⟨_, _, added⟩ := Except.bind_ok added
  obtain ⟨⟨method, arguments⟩, chosen, added⟩ := Except.bind_ok added
  obtain ⟨⟨held, word⟩, made, added⟩ := Except.bind_ok added
  obtain ⟨junction, named, same⟩ := Except.bind_ok added
  have word_or : word = .text "or" := (GroupMethod.entry_word made).trans (alternative_word chosen)
  rw [word_or, or_junction] at named
  cases named
  cases same
  rfl

end NamedOverride

end DataGrid
