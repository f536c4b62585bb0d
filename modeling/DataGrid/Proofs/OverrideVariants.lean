import DataGrid.Proofs.OverrideAdditions

/-! The two forms of a named override. The search by a column's own keyword runs the operation that was named, the
search over all columns its alternative, which has no place for the word that joins the condition. A template that
does not reach that place means the same in both. One that does is refused by the alternative when it fills every
place; otherwise the word is taken for the negation, which has moved to its place. -/

namespace DataGrid

open Sql

/-- What an operation takes a parameter for. -/
inductive Place where
  | column | operator | value | values | text | bindings | direction | word | negation
  deriving DecidableEq, Repr

namespace Operation

/-- The places of an operation in the order of its parameters. -/
def places : Operation → List Place
  | compare => [.column, .operator, .value, .word]
  | orCompare => [.column, .operator, .value]
  | raw => [.text, .bindings, .word]
  | orRaw => [.text, .bindings]
  | member => [.column, .values, .word, .negation]
  | orMember => [.column, .values, .negation]
  | null => [.column, .word, .negation]
  | orNull => [.column, .negation]
  | notNull => [.column, .word]
  | orNotNull => [.column]
  | orderBy => [.column, .direction]
  | orderByRaw => [.text, .bindings]

theorem places_length (operation : Operation) : operation.places.length = operation.arity := by
  cases operation <;> rfl

/-- The alternative of an operation has its places but for the word. -/
theorem places_alternative (operation : Operation) : operation.alternative.places = operation.places.erase .word := by
  cases operation <;> rfl

theorem takesColumn_alternative (operation : Operation) :
    operation.alternative.takesColumn = operation.takesColumn := by
  cases operation <;> rfl

theorem arity_alternative (operation : Operation) :
    operation.alternative.arity = if .word ∈ operation.places then operation.arity - 1 else operation.arity := by
  rw [← places_length, places_alternative, List.length_erase, places_length]

/-- An operation that is its own alternative has no place for the word. -/
theorem word_free_of_same {operation : Operation} (same : operation.alternative = operation) :
    .word ∉ operation.places := by
  rw [← same, places_alternative]
  cases operation <;> decide

end Operation

/-- A computation that does not fail for a number of parameters. -/
def Uncounted {α : Type} (result : Except Error α) : Prop :=
  ∀ name most given, result ≠ .error (.tooManyParameters name most given)

namespace Uncounted

variable {α β : Type}

theorem ok (value : α) : Uncounted (.ok value : Except Error α) := nofun

theorem bind {first : Except Error α} {next : α → Except Error β} (one : Uncounted first)
    (steps : ∀ value, Uncounted (next value)) : Uncounted (first >>= next) := by
  cases first with
  | error failure =>
    rintro name most given ⟨⟩
    exact one name most given rfl
  | ok value => exact steps value

theorem members (value : Value) : Uncounted value.members := by
  unfold Value.members
  split <;> nofun

theorem fragmentOf (sql bindings : Value) : Uncounted (fragmentOf sql bindings) := by
  refine (members bindings).bind fun bindings => ?_
  split
  · unfold Fragment.ofSql
    dsimp only
    split
    · nofun
    · split <;> nofun
  · refine (members _).bind fun members => ?_
    dsimp only
    split <;> nofun
  · refine (members _).bind fun members => ?_
    dsimp only
    split <;> nofun
  · nofun
  · nofun

theorem comparison {adapter : Adapter} {column : Argument} (named : column.NamesColumn) (operator value : Value) :
    Uncounted (adapter.comparisonOf column operator value) := by
  refine bind ?_ fun comparison => ?_
  · unfold Value.toComparison
    split
    · split <;> nofun
    · nofun
    · nofun
  · match column with
    | .expression _ | .value (.text _) =>
      refine bind ?_ fun test => ok _
      unfold Sql.compare
      split <;> nofun

theorem test {adapter : Adapter} {column : Argument} {test : Expr → Except Error Atom}
    (tests : ∀ expression, Uncounted (test expression)) : Uncounted (adapter.testOf column test) := by
  unfold Adapter.testOf
  split
  · exact (tests _).bind fun _ => ok _
  · nofun

theorem checkCount (least most : Nat) (arguments : List Argument) :
    Uncounted (Argument.checkCount least most arguments) := by
  unfold Argument.checkCount
  split <;> nofun

/-- A method that compares looks at its column as a name. -/
theorem entry (method : GroupMethod) (adapter : Adapter) {arguments : List Argument}
    (named : method = .compare ∨ method = .orCompare → (arguments.headD (.value .null)).NamesColumn) :
    Uncounted (method.entry adapter arguments) := by
  have made {first : Except Error Unit} {second : Except Error Entry} (one : Uncounted first) (other : Uncounted second)
      (word : Value) : Uncounted (first >>= fun _ => second >>= fun entry => pure (entry, word)) :=
    one.bind fun _ => other.bind fun _ => ok _
  cases method with
  | compare => exact made (checkCount 1 4 _) (comparison (named (.inl rfl)) _ _) _
  | orCompare => exact made (checkCount 1 3 _) (comparison (named (.inr rfl)) _ _) _
  | raw => exact made (checkCount 1 3 _) ((fragmentOf _ _).bind fun _ => ok _) _
  | orRaw => exact made (checkCount 1 2 _) ((fragmentOf _ _).bind fun _ => ok _) _
  | member => exact made (checkCount 2 4 _) (test fun _ => (members _).bind fun _ => ok _) _
  | null => exact made (checkCount 1 3 _) (test fun _ => ok _) _
  | notNull => exact made (checkCount 1 2 _) (test fun _ => ok _) _

theorem call (store : Store) {adapter : Adapter} (id : GroupId) {method : GroupMethod} {arguments : List Argument}
    (named : method = .compare ∨ method = .orCompare → (arguments.headD (.value .null)).NamesColumn) :
    Uncounted (store.call adapter id method arguments) := by
  refine (entry method adapter named).bind fun made => ?_
  refine bind ?_ fun junction => ok _
  unfold Value.toJunction
  split
  · split <;> nofun
  · nofun

end Uncounted

namespace NamedOverride

variable {override : NamedOverride} {adapter : Adapter} {column keyword : String} {useOr : Bool} {id : GroupId}
  {store grown : Store}

/-- How many parameters an override gives to its operation, the column among them. -/
def given (override : NamedOverride) : Nat :=
  override.template.length + if override.operation.takesColumn then 1 else 0

/-- Whether a parameter stands in the place of the word. -/
def NamesWord (override : NamedOverride) : Prop := .word ∈ override.operation.places.take override.given

/-- Whether every place of the operation has a parameter, the word among them. -/
def Full (override : NamedOverride) : Prop :=
  .word ∈ override.operation.places ∧ override.given = override.operation.arity

instance (override : NamedOverride) : Decidable override.NamesWord := inferInstanceAs (Decidable (_ ∈ _))

instance (override : NamedOverride) : Decidable override.Full := inferInstanceAs (Decidable (_ ∧ _))

theorem takesColumn_running (override : NamedOverride) (useOr : Bool) :
    (override.running useOr).takesColumn = override.operation.takesColumn := by
  cases useOr with
  | false => rfl
  | true => exact override.operation.takesColumn_alternative

theorem checkArity_eq (override : NamedOverride) (useOr : Bool) :
    checkArity (override.running useOr) override.template =
      if (override.running useOr).arity < override.given then
        .error (.tooManyParameters (override.running useOr).name (override.running useOr).arity override.given)
      else .ok () := by
  rw [checkArity, takesColumn_running]
  rfl

theorem given_le (made : make override.operation override.parameters = .ok override) :
    override.given ≤ override.operation.arity := by
  obtain ⟨_, checked, _⟩ := Except.bind_ok made
  have checked : checkArity (override.running false) override.template = .ok () := checked
  rw [checkArity_eq] at checked
  split at checked
  · cases checked
  · next fits => exact Nat.le_of_not_lt fits

/-- An override that was accepted has too many parameters for its alternative when it fills every place. -/
theorem overflows_iff (made : make override.operation override.parameters = .ok override) (useOr : Bool) :
    (override.running useOr).arity < override.given ↔ useOr = true ∧ override.Full := by
  have fits := given_le made
  cases useOr with
  | false => simpa [running] using fits
  | true =>
    rw [running, if_pos rfl, Operation.arity_alternative, Full]
    have positive : .word ∈ override.operation.places → 0 < override.operation.arity := by
      rw [← Operation.places_length]
      exact List.length_pos_of_mem
    split
    · next word =>
      have some := positive word
      simp only [word, true_and]
      omega
    · next word => simp [word, fits]

/-- A comparison has the column of its override as its first argument. -/
theorem groupCall_named {operation : Operation} {call : GroupMethod × List Value}
    (chosen : groupCall operation (override.arguments operation column keyword) = .ok call)
    (compares : call.1 = .compare ∨ call.1 = .orCompare) :
    ((call.2.map Argument.value).headD (.value .null)).NamesColumn := by
  unfold arguments at chosen
  generalize override.template.map (Value.fill keyword) = filled at chosen
  cases operation
  case compare | orCompare =>
    match filled with
    | [] | [_] | _ :: _ :: _ =>
      cases chosen
      trivial
  case raw | orRaw | member | null | notNull =>
    cases chosen
    rcases compares with method | method <;> cases method
  case orMember =>
    match filled with
    | [] => cases chosen
    | _ :: _ =>
      cases chosen
      rcases compares with method | method <;> cases method
  case orNull | orNotNull =>
    cases chosen
    rcases compares with method | method <;> cases method
  case orderBy => cases chosen
  case orderByRaw =>
    match filled with
    | [] | _ :: _ => cases chosen

theorem groupCall_uncounted (operation : Operation) (arguments : List Value) :
    Uncounted (groupCall operation arguments) := by
  unfold groupCall
  dsimp only
  split <;> nofun

theorem applyToGroup_eq (override : NamedOverride) (adapter : Adapter) (id : GroupId) (column keyword : String)
    (useOr : Bool) (store : Store) :
    override.applyToGroup adapter id column keyword useOr store =
      (checkArity (override.running useOr) override.template >>= fun _ =>
        groupCall (override.running useOr) (override.arguments (override.running useOr) column keyword) >>= fun call =>
          store.call adapter id call.1 (call.2.map .value)) := rfl

end NamedOverride

/-- A test and its opposite. -/
inductive Entry.Turned : Entry → Entry → Prop where
  | member (left : Expr) (values : List Value) :
      Turned (.cond (.atom (.member left values false))) (.cond (.atom (.member left values true)))
  | null (left : Expr) : Turned (.cond (.atom (.isNull left false))) (.cond (.atom (.isNull left true)))

theorem Entry.Turned.ne {entry other : Entry} (turned : entry.Turned other) : other ≠ entry := by
  cases turned <;> simp

/-- A step appends one entry to a group and nothing else. -/
structure Store.AppendsOne (id : GroupId) (before after : Store) (junction : Junction) (entry : Entry) : Prop where
  entries : after.entries id = before.entries id ++ [(junction, entry)]
  others : ∀ other : Nat, other ≠ id → after.entries other = before.entries other

theorem Store.appendsOne_add {id : Nat} {store : Store} (inside : id < store.size) (junction : Junction)
    (entry : Entry) :
    AppendsOne id store (store.add id junction entry) junction entry :=
  ⟨entries_add_same junction entry inside, fun _ different => entries_add_other junction entry different⟩

/-- A word that joins is no false value. -/
theorem Value.truthy_of_junction {value : Value} {junction : Junction} (named : value.toJunction = .ok junction) :
    value.truthy = true := by
  unfold Value.toJunction at named
  split at named
  · next word =>
    have filled : word ≠ "" := by
      rintro rfl
      cases named
    simpa [Value.truthy] using filled
  · cases named

namespace Sql.Adapter

variable {adapter : Adapter} {column : Argument} {values : Value} {negated : Bool} {entry other : Entry}

theorem testOf_ok {test : Expr → Except Error Atom} (made : adapter.testOf column test = .ok entry) :
    ∃ left atom, adapter.expression? column = some left ∧ test left = .ok atom ∧ entry = .cond (.atom atom) := by
  unfold testOf at made
  split at made
  · next left found =>
    obtain ⟨atom, tested, same⟩ := Except.bind_ok made
    cases same
    exact ⟨left, atom, found, tested, rfl⟩
  · cases made

theorem memberOf_turned (made : adapter.memberOf column values false = .ok entry)
    (made' : adapter.memberOf column values true = .ok other) : entry.Turned other := by
  obtain ⟨left, _, found, tested, rfl⟩ := testOf_ok made
  obtain ⟨left', _, found', tested', rfl⟩ := testOf_ok made'
  obtain ⟨members, listed, same⟩ := Except.bind_ok tested
  obtain ⟨members', listed', same'⟩ := Except.bind_ok tested'
  cases same
  cases same'
  cases found.symm.trans found'
  cases listed.symm.trans listed'
  exact .member left members

theorem nullOf_turned (made : adapter.nullOf column false = .ok entry)
    (made' : adapter.nullOf column true = .ok other) : entry.Turned other := by
  obtain ⟨left, _, found, tested, rfl⟩ := testOf_ok made
  obtain ⟨left', _, found', tested', rfl⟩ := testOf_ok made'
  cases tested
  cases tested'
  cases found.symm.trans found'
  exact .null left

end Sql.Adapter

/-- Two methods that make their entry in one way. -/
theorem GroupMethod.entry_same {accepted accepted' : Except Error Unit} {made : Except Error Entry}
    {word word' found found' : Value} {entry other : Entry}
    (first : (accepted >>= fun _ => made >>= fun entry => pure (entry, word)) = .ok (entry, found))
    (second : (accepted' >>= fun _ => made >>= fun entry => pure (entry, word')) = .ok (other, found')) :
    other = entry ∧ found = word := by
  obtain ⟨_, _, first⟩ := Except.bind_ok first
  obtain ⟨_, _, second⟩ := Except.bind_ok second
  obtain ⟨_, one, same⟩ := Except.bind_ok first
  obtain ⟨_, two, same'⟩ := Except.bind_ok second
  cases same
  cases same'
  cases one.symm.trans two
  exact ⟨rfl, rfl⟩

/-- Two methods make opposites where one takes for the negation what joins for the other. -/
theorem GroupMethod.entry_turned {accepted accepted' : Except Error Unit} (test : Bool → Except Error Entry)
    (turns : ∀ entry other, test false = .ok entry → test true = .ok other → entry.Turned other)
    {word word' found found' : Value} {entry other : Entry} {junction : Junction}
    (first : (accepted >>= fun _ => test false >>= fun entry => pure (entry, word)) = .ok (entry, found))
    (second : (accepted' >>= fun _ => test word.truthy >>= fun entry => pure (entry, word')) = .ok (other, found'))
    (named : found.toJunction = .ok junction) : entry.Turned other := by
  obtain ⟨_, _, first⟩ := Except.bind_ok first
  obtain ⟨_, _, second⟩ := Except.bind_ok second
  obtain ⟨_, one, same⟩ := Except.bind_ok first
  obtain ⟨_, two, same'⟩ := Except.bind_ok second
  cases same
  cases same'
  rw [Value.truthy_of_junction named] at two
  exact turns _ _ one two

/-- The condition of an operation and that of its alternative on the same parameters: the same test, or, where the
parameters reach the word, a test and its opposite. -/
theorem Operation.entry_alternative {adapter : Adapter} {operation : Operation}
    {given arguments arguments' : List Value} {method method' : GroupMethod} {entry entry' : Entry}
    {word word' : Value} {junction : Junction}
    (fits : given.length ≤ operation.alternative.arity)
    (chosen : NamedOverride.groupCall operation given = .ok (method, arguments))
    (chosen' : NamedOverride.groupCall operation.alternative given = .ok (method', arguments'))
    (made : method.entry adapter (arguments.map .value) = .ok (entry, word))
    (made' : method'.entry adapter (arguments'.map .value) = .ok (entry', word'))
    (named : word.toJunction = .ok junction) :
    if .word ∈ operation.places.take given.length then entry.Turned entry'
    else entry' = entry ∧ word = if operation.alternative = operation then .text "or" else .text "and" := by
  cases operation with
  | compare =>
    match given, fits with
    | [], _ | [_], _ | [_, _], _ | [_, _, _], _ =>
      cases chosen
      cases chosen'
      exact GroupMethod.entry_same made made'
  | raw =>
    match given, fits with
    | [], _ | [_], _ | [_, _], _ =>
      cases chosen
      cases chosen'
      exact GroupMethod.entry_same made made'
  | notNull =>
    match given, fits with
    | [], _ => cases chosen'
    | [_], _ =>
      cases chosen
      cases chosen'
      exact GroupMethod.entry_same made made'
  | member =>
    match given, fits with
    | [], _ | [_], _ => cases chosen'
    | [_, _], _ =>
      cases chosen
      cases chosen'
      exact GroupMethod.entry_same made made'
    | [_, _, _], _ =>
      cases chosen
      cases chosen'
      exact GroupMethod.entry_turned (adapter.memberOf _ _) (fun _ _ => Adapter.memberOf_turned) made made' named
  | null =>
    match given, fits with
    | [], _ => cases chosen'
    | [_], _ =>
      cases chosen
      cases chosen'
      exact GroupMethod.entry_same made made'
    | [_, _], _ =>
      cases chosen
      cases chosen'
      exact GroupMethod.entry_turned (adapter.nullOf _) (fun _ _ => Adapter.nullOf_turned) made made' named
  | orCompare | orRaw | orMember | orNull | orNotNull =>
    rw [if_neg fun reached => Operation.word_free_of_same rfl (List.mem_of_mem_take reached)]
    cases chosen.symm.trans chosen'
    cases made.symm.trans made'
    exact ⟨rfl, (GroupMethod.entry_word made).trans (NamedOverride.alternative_word chosen')⟩
  | orderBy => cases chosen
  | orderByRaw =>
    match given, fits with
    | [], _ | _ :: _, _ => cases chosen

namespace NamedOverride

variable {override : NamedOverride} {adapter : Adapter} {column keyword : String} {useOr : Bool} {id : GroupId}
  {store grown : Store}

/-- What a run of an override goes through. -/
theorem applyToGroup_ok (applied : override.applyToGroup adapter id column keyword useOr store = .ok grown) :
    ∃ method arguments entry word junction, override.given ≤ (override.running useOr).arity ∧
      groupCall (override.running useOr) (override.arguments (override.running useOr) column keyword) =
        .ok (method, arguments) ∧
      method.entry adapter (arguments.map .value) = .ok (entry, word) ∧ word.toJunction = .ok junction ∧
      grown = store.add id junction entry := by
  obtain ⟨_, checked, applied⟩ := Except.bind_ok applied
  obtain ⟨⟨method, arguments⟩, chosen, called⟩ := Except.bind_ok applied
  obtain ⟨⟨entry, word⟩, made, called⟩ := Except.bind_ok called
  obtain ⟨junction, named, same⟩ := Except.bind_ok called
  cases same
  refine ⟨method, arguments, entry, word, junction, ?_, chosen, made, named, rfl⟩
  rw [checkArity_eq] at checked
  split at checked
  · cases checked
  · next fits => exact Nat.le_of_not_lt fits

theorem arguments_running (override : NamedOverride) (useOr : Bool) (column keyword : String) :
    override.arguments (override.running useOr) column keyword =
      override.arguments override.operation column keyword := by
  rw [arguments, takesColumn_running]
  rfl

theorem length_arguments (override : NamedOverride) (column keyword : String) :
    (override.arguments override.operation column keyword).length = override.given := by
  rw [arguments, given]
  split <;> simp

/-- An override that runs in both searches appends one condition in each, in the second one joined by `or`. The
conditions are the same test unless a parameter stands in the place of the word; then they are opposites. -/
theorem applyToGroup_variants {first second : GroupId} {store other alone either : Store}
    (inside : first < store.size) (inside' : second < other.size)
    (once : override.applyToGroup adapter first column keyword false store = .ok alone)
    (again : override.applyToGroup adapter second column keyword true other = .ok either) :
    ∃ junction entry entry', Store.AppendsOne first store alone junction entry ∧
      Store.AppendsOne second other either .or entry' ∧ (entry' = entry ↔ ¬override.NamesWord) ∧
      (override.NamesWord → entry.Turned entry') ∧
      (¬override.NamesWord →
        junction = if override.operation.alternative = override.operation then .or else .and) := by
  obtain ⟨method, arguments, entry, word, junction, _, chosen, made, named, rfl⟩ := applyToGroup_ok once
  obtain ⟨method', arguments', entry', word', junction', fits, chosen', made', named', rfl⟩ := applyToGroup_ok again
  have joins : junction' = .or := by
    rw [(GroupMethod.entry_word made').trans (alternative_word chosen'), or_junction] at named'
    cases named'
    rfl
  subst joins
  rw [arguments_running] at chosen chosen'
  rw [← length_arguments override column keyword] at fits
  have both := Operation.entry_alternative fits chosen chosen' made made' named
  rw [length_arguments] at both
  refine ⟨junction, entry, entry', Store.appendsOne_add inside .., Store.appendsOne_add inside' .., ?_⟩
  split at both
  · next reached =>
    exact ⟨⟨fun same => absurd same both.ne, fun free => absurd reached free⟩, fun _ => both,
      fun free => absurd reached free⟩
  · next free =>
    refine ⟨⟨fun _ => free, fun _ => both.1⟩, fun reached => absurd reached free, fun _ => ?_⟩
    rw [both.2] at named
    split at named
    · next same =>
      rw [if_pos same]
      cases or_junction.symm.trans named
      rfl
    · next different =>
      rw [if_neg different]
      cases (rfl : Value.toJunction (.text "and") = .ok .and).symm.trans named
      rfl

/-- With the word among its parameters, a search for one of some values is a search for all others over all columns. -/
theorem applyToGroup_variants_member :
    let override : NamedOverride := ⟨.member, [.list [.text "$1"], .text "and"]⟩
    let adapter : Adapter := .ofDialect .sqlite false
    ∃ alone either, override.applyToGroup adapter 0 "a" "x" false ⟨[[]]⟩ = .ok alone ∧
      override.applyToGroup adapter 0 "a" "x" true ⟨[[]]⟩ = .ok either ∧
      ∃ junction entry entry', Store.AppendsOne 0 ⟨[[]]⟩ alone junction entry ∧
        Store.AppendsOne 0 ⟨[[]]⟩ either .or entry' ∧ entry.Turned entry' := by
  intro override adapter
  have once : override.applyToGroup adapter 0 "a" "x" false ⟨[[]]⟩ =
      .ok ⟨[[(.and, .cond (.atom (.member (adapter.column "a") [.text "x"] false)))]]⟩ := rfl
  have again : override.applyToGroup adapter 0 "a" "x" true ⟨[[]]⟩ =
      .ok ⟨[[(.or, .cond (.atom (.member (adapter.column "a") [.text "x"] true)))]]⟩ := rfl
  obtain ⟨junction, entry, entry', first, second, _, turned, _⟩ :=
    applyToGroup_variants (by decide) (by decide) once again
  exact ⟨_, _, once, again, junction, entry, entry', first, second, turned (by decide)⟩

end NamedOverride

end DataGrid
