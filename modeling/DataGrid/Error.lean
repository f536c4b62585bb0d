/-!
Causes of failure, the text of each, and actions that keep their state when they fail: what an action
did before the failure stays done.
-/

namespace DataGrid

/-- What was being read when a configuration file turned out to be malformed. -/
inductive YamlStage where
  | character | token | nesting | reference | value
  deriving DecidableEq, Repr

inductive Error where
  | unknownSettings (shown : String)
  | templatePlaces
  | noJsonPath (dialect : String)
  | bindingCount (expected given : Nat) (sql : String)
  | unknownComparison (operator : String)
  | unknownJunction (word : String)
  | unknownOperation (name : String)
  | tooManyParameters (operation : String) (allowed given : Nat)
  | undefinedRelation (name table : String)
  | notAnInteger (parameter shown : String)
  | invalidColumn (shown : String)
  | unnamedColumn (shown : String)
  | invalidJson (parameter detail : String)
  | legacyRequest
  | insufficientRequest
  | pageBelowOne (page : Int)
  | pagingApplied
  | notBound
  | badValue (reason : String)
  | unknownKey (shown : String)
  | outOfRange (reason : String)
  | tooLarge (reason : String)
  | wrongType
  | noSuchMember
  | undecodable
  | unrenderable
  | badOperand
  | ambiguousJoin
  | noForeignKey
  | ambiguousForeignKey
  | noReferencedColumn
  | duplicateColumn
  | signaledNumber
  | outOfMemory
  | tooDeep
  | malformedYaml (stage : YamlStage)
  deriving DecidableEq, Repr

namespace Error

inductive Kind where
  | configuration | request | query | value | key | index | overflow | type | member | encoding
  | rendering | operand | joining | foreignKey | ambiguousKey
  | referencedColumn | duplicate | arithmetic | memory | nesting | yaml (stage : YamlStage)
  deriving DecidableEq, Repr

def kind : Error → Kind
  | unknownSettings _ | templatePlaces | noJsonPath _ | bindingCount .. | unknownComparison _
  | unknownJunction _ | unknownOperation _ | tooManyParameters .. | undefinedRelation .. => .configuration
  | notAnInteger .. | invalidColumn _ | unnamedColumn _ | invalidJson .. | legacyRequest
  | insufficientRequest | pageBelowOne _ => .request
  | pagingApplied | notBound => .query
  | badValue _ => .value
  | unknownKey _ => .key
  | outOfRange _ => .index
  | tooLarge _ => .overflow
  | wrongType => .type
  | noSuchMember => .member
  | undecodable => .encoding
  | unrenderable => .rendering
  | badOperand => .operand
  | ambiguousJoin => .joining
  | noForeignKey => .foreignKey
  | ambiguousForeignKey => .ambiguousKey
  | noReferencedColumn => .referencedColumn
  | duplicateColumn => .duplicate
  | signaledNumber => .arithmetic
  | outOfMemory => .memory
  | tooDeep => .nesting
  | malformedYaml stage => .yaml stage

/-- The text of a failure; those whose kind says everything have none. -/
def message : Error → String
  | unknownSettings shown => s!"Unknown datatable configuration keys: {shown}"
  | templatePlaces => "nulls_last_sql must contain two '%s' placeholders"
  | noJsonPath dialect => s!"{dialect} is Unknown for this kind of operation."
  | bindingCount expected given sql => s!"Raw SQL expects {expected} bindings, got {given}: {sql}"
  | unknownComparison operator => s!"Unsupported comparison operator: {operator}"
  | unknownJunction word => s!"{word} is a unknown operator"
  | unknownOperation name => s!"Unknown query operation: {name}"
  | tooManyParameters operation allowed given =>
    s!"{operation} takes at most {allowed} parameters, {given} given"
  | undefinedRelation name table => s!"Call to undefined relationship [{name}] on table [{table}]"
  | notAnInteger parameter shown => s!"Parameter '{parameter}' must be an integer, got {shown}"
  | invalidColumn shown => s!"Invalid column definition: {shown}"
  | unnamedColumn shown => s!"Column without name or data key: {shown}"
  | invalidJson parameter detail => s!"Parameter '{parameter}' is not valid JSON: {detail}"
  | legacyRequest =>
    "DataTables legacy code is not supported! Please use DataTables 1.10++ coding convention."
  | insufficientRequest => "Insufficient parameters"
  | pageBelowOne page => s!"Page must be 1 or greater, got {page}"
  | pagingApplied => "Paging was already applied to this query"
  | notBound => "The query is not bound to a database"
  | badValue reason | outOfRange reason | tooLarge reason => reason
  | unknownKey shown => shown
  | _ => ""

end Error

/-- The size from which on a text or number is taken not to fit into memory. -/
def memoryLimit : Nat := 10000000

def checkMemory (size : Nat) : Except Error Unit :=
  if memoryLimit < size then .error .outOfMemory else .ok ()

def stepLimit : Nat := 985

/-- A step on a state that may fail; the state is kept either way. -/
abbrev Action (σ : Type) := ExceptT Error (StateM σ)

namespace Action

def on {σ τ : Type} (get : σ → τ) (set : τ → σ → σ) {α : Type} (step : Action τ α) : Action σ α :=
  fun state =>
    let (result, part) := step (get state)
    (result, set part state)

def perform {σ α : Type} (step : Action σ α) (state : σ) : Except Error α × σ := step state

end Action

end DataGrid
