import DataGrid.Override.Operation

/-!
Overrides of the automatic search or order of a column: a script of the caller, or a named operation
with a template of parameters in which a mark stands for the keyword.
-/

namespace DataGrid

open Sql

structure NamedOverride where
  operation : Operation
  parameters : List Value

inductive Override (Step : Type) where
  | callback (script : String → List Step)
  | named (override : NamedOverride)

def fillKeyword (keyword : List Char) : List Char → List Char
  | [] => []
  | '$' :: '1' :: rest => keyword ++ fillKeyword keyword rest
  | c :: rest => c :: fillKeyword keyword rest

namespace Value

def fillText (keyword : String) : Value → Value
  | .text s => .text (String.ofList (fillKeyword keyword.toList s.toList))
  | value => value

def fill (keyword : String) : Value → Value
  | .list items => .list (items.map (fillText keyword))
  | value => value.fillText keyword

end Value

namespace NamedOverride

/-- Whether the last parameter is false, which keeps the column out of the search over all columns. -/
def searchExempt (override : NamedOverride) : Bool :=
  match override.parameters.getLast? with
  | some (.bool false) => true
  | _ => false

def template (override : NamedOverride) : List Value :=
  if override.searchExempt then override.parameters.dropLast else override.parameters

def checkArity (operation : Operation) (template : List Value) : Except Error Unit :=
  let given := template.length + (if operation.takesColumn then 1 else 0)
  if operation.arity < given then .error (.tooManyParameters operation.name operation.arity given) else .ok ()

def make (operation : Operation) (parameters : List Value) : Except Error NamedOverride := do
  let override : NamedOverride := ⟨operation, parameters⟩
  checkArity operation override.template
  return override

/-- The operation as it is run: its alternative where conditions are joined by `or`. -/
def running (override : NamedOverride) (useOr : Bool) : Operation :=
  if useOr then override.operation.alternative else override.operation

def arguments (override : NamedOverride) (operation : Operation) (column keyword : String) : List Value :=
  let filled := override.template.map (Value.fill keyword)
  if operation.takesColumn then .text column :: filled else filled

/-- The group method that an operation comes to, and its arguments. A comparison with one parameter asks
for equality. -/
def groupCall (operation : Operation) (arguments : List Value) : Except Error (GroupMethod × List Value) :=
  let compared (arguments : List Value) : List Value :=
    match arguments with
    | [column, value] => [column, .text "=", value]
    | _ => arguments
  match operation, arguments with
  | .compare, _ => .ok (.compare, compared arguments)
  | .orCompare, _ => .ok (.orCompare, compared arguments)
  | .raw, _ => .ok (.raw, arguments)
  | .orRaw, _ => .ok (.orRaw, arguments)
  | .member, _ => .ok (.member, arguments)
  | .orMember, column :: values :: rest => .ok (.member, column :: values :: .text "or" :: rest)
  | .null, _ => .ok (.null, arguments)
  | .orNull, column :: rest => .ok (.null, column :: .text "or" :: rest)
  | .notNull, _ => .ok (.notNull, arguments)
  | .orNotNull, column :: rest => .ok (.notNull, column :: .text "or" :: rest)
  | .orderBy, _ => .error .noSuchMember
  | .orderByRaw, [] => .error .wrongType
  | .orderByRaw, _ => .error .noSuchMember
  | _, _ => .error .wrongType

def applyToGroup (override : NamedOverride) (adapter : Adapter) (id : GroupId) (column keyword : String)
    (useOr : Bool) (store : Store) : Except Error Store := do
  let operation := override.running useOr
  checkArity operation override.template
  let (method, arguments) ← groupCall operation (override.arguments operation column keyword)
  store.call adapter id method (arguments.map .value)

/-- Runs an override on a query, which has the methods for plain and raw conditions and for orders. -/
def applyToQuery (override : NamedOverride) (column keyword : String) (query : Query) : Except Error Query := do
  let operation := override.operation
  checkArity operation override.template
  let arguments := override.arguments operation column keyword
  match operation with
  | .orderBy =>
    let ascending := (arguments.getD 1 (.text "asc")).isText "asc"
    return query.orderBy (.directed (query.adapter.column column) ascending)
  | .orderByRaw => return (← query.call .orderByRaw (arguments.map .value)).2
  | _ =>
    let (method, arguments) ← groupCall operation arguments
    match method with
    | .compare | .raw => query.callRoot method (arguments.map .value)
    | .member =>
      if arguments.length < 2 then throw .wrongType
      throw .noSuchMember
    | .orRaw =>
      if arguments.isEmpty then throw .wrongType
      throw .noSuchMember
    | _ => throw .noSuchMember

end NamedOverride

end DataGrid
