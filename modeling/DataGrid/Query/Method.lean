import DataGrid.Query
import DataGrid.Predicate.Script

/-!
Calls on a query with arguments of any kind, and scripts of them: what a callback does with the query
that it is given. A call that fails leaves the query as it was.
-/

namespace DataGrid

open Sql

inductive QueryMethod where
  | compare | raw | leftJoin | hasJoin | addItem | orderByRaw | skip | take
  deriving DecidableEq, Repr

def QueryMethod.ofName? (name : String) : Option QueryMethod :=
  match name with
  | "where" => some .compare
  | "where_raw" => some .raw
  | "left_join" => some .leftJoin
  | "has_join" => some .hasJoin
  | "add_select" => some .addItem
  | "order_by_raw" => some .orderByRaw
  | "skip" => some .skip
  | "take" => some .take
  | _ => none

namespace Value

def toTableName : Value → Except Error String
  | .text name => .ok name
  | _ => .error .noSuchMember

def toItem? : Value → Option Item
  | .null => some .null
  | .bool flag => some (.truth flag)
  | content => if content.magnitude?.isSome then some (.text content.display) else none

def holdsPlace : Value → Except Error Bool
  | .text s => .ok (s.toList.contains '?')
  | .object fields => .ok (field? fields "?").isSome
  | .bytes _ => .error .wrongType
  | content => content.holds (.text "?")

end Value

namespace Query

/-- Orders by a raw term; the bindings count only where it has places for them. -/
def orderByRaw (query : Query) (sql bindings : Value) : Except Error Query := do
  if ← sql.holdsPlace then return query.orderBy (.fragment (← fragmentOf sql bindings))
  match sql with
  | .text s => return query.orderBy (.text s)
  | _ => return query.orderBy (.value sql)

def callRoot (query : Query) (method : GroupMethod) (arguments : List Argument) : Except Error Query :=
  return { query with store := ← query.store.call query.adapter query.root method arguments }

/-- Joins a table whose name and key columns are values; the columns are looked at only when the table
is not joined yet. -/
def leftJoinNamed (query : Query) (target : TableName) (first second : Value) : Except Error (Bool × Query) :=
  if query.hasJoin target.shown then .ok (false, query)
  else do
    let first ← first.toColumnName
    let second ← second.toColumnName
    return query.leftJoin target (joinCondition query.adapter first second none)

/-- Calls a method; the answer is null but for those that answer yes or no. -/
def call (query : Query) (method : QueryMethod) (arguments : List Argument) : Except Error (Value × Query) := do
  let argument (index : Nat) : Value := (arguments.map Argument.toValue).getD index .null
  match method with
  | .compare => return (.null, ← query.callRoot .compare arguments)
  | .raw => return (.null, ← query.callRoot .raw arguments)
  | .leftJoin =>
    Argument.checkCount 3 3 arguments
    let table ← (argument 0).toTableName
    let (added, query) ← query.leftJoinNamed ⟨table, none⟩ (argument 1) (argument 2)
    return (.bool added, query)
  | .hasJoin =>
    Argument.checkCount 1 1 arguments
    if !(argument 0).hashable then throw .wrongType
    match argument 0 with
    | .text table => return (.bool (query.hasJoin table), query)
    | _ => return (.bool false, query)
  | .addItem =>
    Argument.checkCount 1 1 arguments
    match arguments.headD (.value .null) with
    | .expression (.lower content) => return (.null, query.addItem (some (.lowered content)))
    | .expression _ => throw .badOperand
    | .value (.text column) => return (.null, query.addColumn column)
    | .value content => return (.null, query.addItem content.toItem?)
  | .orderByRaw =>
    Argument.checkCount 1 2 arguments
    return (.null, ← query.orderByRaw (argument 0) ((arguments.map Argument.toValue).getD 1 (.list [])))
  | .skip =>
    Argument.checkCount 1 1 arguments
    return (.null, { query with offset := argument 0 })
  | .take =>
    Argument.checkCount 1 1 arguments
    return (.null, { query with limit := argument 0 })

end Query

inductive QueryStep where
  | call (method : QueryMethod) (arguments : List Argument)
  | nested (junction : Value) (steps : List GroupStep)
  deriving Repr

namespace QueryStep

def onStore {α : Type} (step : Action Store α) : Action Query α :=
  Action.on Query.store (fun store query => { query with store := store }) step

def run : QueryStep → Action Query Value
  | .call method arguments => fun query =>
    match query.call method arguments with
    | .ok (answer, query) => (.ok answer, query)
    | .error failure => (.error failure, query)
  | .nested junction steps => fun query =>
    match query.store.nestedNamed query.root junction with
    | .error failure => (.error failure, query)
    | .ok (inner, store) =>
      (do
        onStore (GroupStep.runAll query.adapter inner steps)
        return .null : Action Query Value) { query with store := store }

def runAll (steps : List QueryStep) : Action Query Unit := steps.forM fun step => discard step.run

end QueryStep

end DataGrid
