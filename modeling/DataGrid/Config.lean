import DataGrid.Value.Merge

/-!
The settings that all requests share. They are read once, from a record or from the entries of a
configuration file, and merged over the defaults; settings that do not exist are refused, while the
values of the others are taken as they are.
-/

namespace DataGrid

structure Config where
  caseInsensitive : Value := .bool true
  /-- Let an asterisk stand for any run and a question mark for any character. -/
  useWildcards : Value := .bool false
  smart : Value := .bool true
  nullsLast : Value := .bool false
  /-- The order with nulls last, with places for the column and the direction. -/
  nullsLastSql : Value := .text "%s %s NULLS LAST"
  oracle : Value := .bool false
  defaultPageSize : Value := .int 10
  debug : Value := .bool false
  deriving Inhabited, Repr

namespace Config

def toFields (config : Config) : List (String × Value) :=
  [("case_insensitive", config.caseInsensitive), ("use_wildcards", config.useWildcards), ("smart", config.smart),
    ("nulls_last", config.nullsLast), ("nulls_last_sql", config.nullsLastSql), ("oracle", config.oracle),
    ("default_page_size", config.defaultPageSize), ("debug", config.debug)]

def ofFields (fields : List (String × Value)) : Config :=
  let part := Value.fieldOrNull fields
  { caseInsensitive := part "case_insensitive"
    useWildcards := part "use_wildcards"
    smart := part "smart"
    nullsLast := part "nulls_last"
    nullsLastSql := part "nulls_last_sql"
    oracle := part "oracle"
    defaultPageSize := part "default_page_size"
    debug := part "debug" }

def names : List String := (({} : Config).toFields).map (·.1)

def countPlaces : List Char → Nat
  | '%' :: 's' :: rest => countPlaces rest + 1
  | _ :: rest => countPlaces rest
  | [] => 0

def templatePlaces : Value → Except Error Nat
  | .text s => .ok (countPlaces s.toList)
  | .list items => .ok (items.filter (·.isText "%s")).length
  | .bytes _ => .error .wrongType
  | _ => .error .noSuchMember

/-- Whether a name goes before another one; what is not a number goes behind all numbers. -/
def goesFirst (first second : Value) : Except Error Bool := do
  match ← Value.order first second with
  | some answer => return answer != .gt
  | none => return !Value.same second second

/-- Names in order; names of different kinds have none. -/
def sortedNames (names : List Value) : Except Error (List Value) := do
  if names.length < 2 then return names
  names.forM fun first => names.forM fun second => do let _ ← goesFirst first second
  return names.mergeSort fun first second => (goesFirst first second).toOption.getD true

def isSetting : Value → Bool
  | .text name => names.contains name
  | _ => false

def checkNames (names : List Value) : Except Error Unit := do
  let unknown := names.filter fun key => !isSetting key
  if !unknown.isEmpty then throw (.unknownSettings (Value.list (← sortedNames unknown)).shown)

def ofSettings (given : List (String × Value)) : Except Error Config := do
  let config := ofFields (← Value.mergeFields ({} : Config).toFields given)
  if (← templatePlaces config.nullsLastSql) ≠ 2 then throw .templatePlaces
  return config

def ofKnown (fields : List (String × Value)) : Except Error Config := do
  checkNames (fields.map fun (name, _) => .text name)
  ofSettings fields

/-- The settings of a record; they may stand in a section of their own. -/
def ofValue (value : Value) : Except Error Config :=
  if !value.truthy then ofKnown []
  else
    match value with
    | .object fields =>
      match Value.field? fields "datatables" with
      | some (.object inner) => ofKnown inner
      | _ => ofKnown fields
    | _ => .error .noSuchMember

end Config

end DataGrid
