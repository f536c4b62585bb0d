import DataGrid.Predicate.Method
import DataGrid.Sql.Render

/-!
The query under construction for one request: a base statement and what is added to it, predicates in
groups below a root, joins without repetition, select list entries, sort terms and the window of rows.
`Query.select` puts them together as a statement; nothing here changes the base.
-/

namespace DataGrid

open Sql

structure Query where
  base : Select
  adapter : Adapter
  store : Store
  root : GroupId
  joins : List Join
  joined : List String
  /-- What is added to the select list, none for a value that cannot be selected. -/
  items : List (Option Item)
  sorts : List SortTerm
  offset : Value
  limit : Value

namespace Query

/-- The names of the tables that a statement joins; a table with an empty name counts as one without. -/
def joinedTables (base : Select) : List String := (base.joins.map (·.target.shown)).filter (· != "")

def ofSelect (base : Select) (dialect : Dialect) (oracle : Bool) : Query :=
  let (root, store) := Store.fresh {}
  { base := base
    adapter := Adapter.ofDialect dialect oracle
    store := store
    root := root
    joins := []
    joined := joinedTables base
    items := []
    sorts := []
    offset := .null
    limit := .null }

def dialect (query : Query) : Dialect := query.adapter.dialect

/-- The name of the main table; a statement over an expression has none. -/
def mainTable? (query : Query) : Option String := query.base.source.bind Source.name?

def hasJoin (query : Query) (table : String) : Bool := query.joined.contains table

def add (query : Query) (junction : Junction) (cond : Cond) : Query :=
  { query with store := query.store.add query.root junction (.cond cond) }

/-- The condition that makes two columns meet, and what else has to hold. -/
def joinCondition (adapter : Adapter) (first second : String) (extra : Option Atom) : Cond :=
  let same := Cond.atom (.sameColumn (adapter.column first) (adapter.column second))
  match extra with
  | some extra => Cond.join .and [same, .atom extra]
  | none => same

/-- Joins a table, keeping rows without a match, unless a table of that name is joined already. -/
def leftJoin (query : Query) (target : TableName) (on : Cond) : Bool × Query :=
  if query.hasJoin target.shown then (false, query)
  else
    (true, { query with
      joins := query.joins ++ [⟨true, target, on⟩]
      joined := query.joined ++ [target.shown] })

def addItem (query : Query) (item : Option Item) : Query := { query with items := query.items ++ [item] }

def addColumn (query : Query) (column : String) : Query :=
  query.addItem (some (.text (query.adapter.quoteIdentifier column)))

def orderBy (query : Query) (term : SortTerm) : Query := { query with sorts := query.sorts ++ [term] }

/-- The condition of the statement: the base condition, and the clause of the root group. -/
def condition (query : Query) : Except Error (Option Cond) :=
  return Clause.filter? query.base.filter (← query.store.clause? query.root)

def rowNumber (value : Value) : Except Error (Option Int) :=
  match value with
  | .null => .ok none
  | value => (value.toInteger).map some

/-- The statement as it stands. Tables can be joined only to a base that selects from somewhere, and the window
of the base stays where the query sets none. -/
def select (query : Query) : Except Error Select := do
  if !query.joins.isEmpty && query.base.source.isNone then throw (.outOfRange "list index out of range")
  return { query.base with
    items := query.base.items ++ (← query.items.mapM fun item => item.elim (.error .badOperand) .ok)
    joins := query.base.joins ++ query.joins
    filter := ← query.condition
    sorts := query.base.sorts ++ query.sorts
    offset := (← rowNumber query.offset).or query.base.offset
    limit := (← rowNumber query.limit).or query.base.limit }

/-- The words that make a statement keep its select list when its rows are counted. -/
def countBlockers : List String := ["union", "having", "distinct", "order by", "group by"]

/-- Whether `part` occurs in a text. -/
def occursIn (part : List Char) : List Char → Bool
  | [] => part.isEmpty
  | c :: rest => part.isPrefixOf (c :: rest) || occursIn part rest

/-- Whether a statement mentions one of the blocking words, its values left out. -/
def blocksCount (dialect : Dialect) (statement : Select) : Except Error Bool := do
  let written := Text.lower (← placeholderText dialect (statement.pieces dialect false)).toList
  return countBlockers.any fun word => occursIn word.toList written

/-- The statement that counts the rows of the query. A plain statement gets a constant in place of its
select list, which a base with joins of its own does not allow once more tables are joined. -/
def countSelect (query : Query) : Except Error Select := do
  let statement ← query.select
  if ← blocksCount query.dialect statement then return statement.counting
  if !query.base.joins.isEmpty && !query.joins.isEmpty then throw .ambiguousJoin
  return { statement with items := [.rowMark] }.counting

end Query

namespace Sql.Select

def inlineSql (dialect : Dialect) (statement : Select) : Except Error String :=
  inlineText dialect (statement.pieces dialect false)

def placeholderSql (dialect : Dialect) (statement : Select) : Except Error String :=
  placeholderText dialect (statement.pieces dialect false)

/-- The values that a statement binds, in the order in which they appear, when each has a name. -/
def values (dialect : Dialect) (statement : Select) : Except Error (List Value) := do
  discard (statement.placeholderSql dialect)
  return boundValues (statement.pieces dialect false)

end Sql.Select

end DataGrid
