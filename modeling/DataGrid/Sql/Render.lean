import DataGrid.Sql.Select
import DataGrid.Sql.Literal
import DataGrid.Sql.Naming

/-!
Writing a statement. A statement is first laid out as pieces, final text, names and bound values in
their places; the text with values inline, the text with placeholders and the list of values are three
views of the same pieces. Without its values inline a statement has to have a name for each of them.
-/

namespace DataGrid.Sql

inductive Piece where
  | text (content : String)
  | name (content : String)
  | numbered (base : String)
  | bound (base : String) (value : Value)
  | members (base : String) (values : List Value) (negated : Bool)
  | fragment (content : Fragment)
  | refused (cause : Error)
  /-- Text that stands where a placeholder is expected, although a value is bound. -/
  | hidden (content : String) (value : Value)
  deriving Repr

namespace Dialect

def plain (dialect : Dialect) (sql : String) : String := String.ofList (dialect.percent sql.toList)

def expr (dialect : Dialect) : Expr → String
  | .literal sql => dialect.plain sql
  | .column table name => dialect.bareName table ++ "." ++ dialect.bareName name
  | .lower inner => "lower(" ++ dialect.expr inner ++ ")"
  | .cast inner type => "CAST(" ++ dialect.expr inner ++ " AS " ++ type ++ ")"

def truthTest (dialect : Dialect) (flag : Bool) : String :=
  dialect.truthLiteral flag ++ (if dialect.truthStands then "" else " = 1")

end Dialect

/-- The base of the names for values that are compared with an expression. -/
def Expr.base : Expr → String
  | .literal sql => valueBase sql
  | .column _ name => valueBase name
  | .lower _ => "lower"
  | .cast .. => "param"

def Atom.pieces (dialect : Dialect) : Atom → List Piece
  | .truth flag => [.text (dialect.truthTest flag)]
  | .compare left operator value =>
    [.text (dialect.expr left ++ " " ++ operator.sign ++ " "), .bound left.base value]
  | .isTruth left flag => [.text (dialect.expr left ++ " = " ++ dialect.truthLiteral flag)]
  | .isNull left negated => [.text (dialect.expr left ++ (if negated then " IS NOT NULL" else " IS NULL"))]
  | .member left values negated =>
    if negated then
      [.text ("(" ++ dialect.expr left ++ " NOT IN ("), .members left.base values true, .text "))"]
    else [.text (dialect.expr left ++ " IN ("), .members left.base values false, .text ")"]
  | .sameColumn left right => [.text (dialect.expr left ++ " = " ++ dialect.expr right)]
  | .regexp left operator pattern =>
    [.text (dialect.expr left ++ " " ++ operator ++ " "), .bound left.base (.text pattern)]
  | .regexpLike left pattern ignoreCase =>
    [.text ("REGEXP_LIKE(" ++ dialect.expr left ++ ", "), .bound "REGEXP_LIKE" (.text pattern),
      .text (if ignoreCase then ", 'i')" else ")")]
  | .fragment content => [.fragment content]

def Rows.text (dialect : Dialect) : Rows → String
  | .table name => dialect.bareName name
  | .joined name other left right =>
    dialect.bareName name ++ dialect.innerJoin ++ dialect.bareName other ++ " ON " ++ dialect.expr left ++ " = " ++
      dialect.expr right

def separated (separator : String) : List (List Piece) → List Piece
  | [] => []
  | [pieces] => pieces
  | pieces :: rest => pieces ++ .text separator :: separated separator rest

def Junction.separator : Junction → String
  | .and => " AND "
  | .or => " OR "

mutual

def Cond.pieces (dialect : Dialect) : Cond → List Piece
  | .atom test => test.pieces dialect
  | .exists rows inner =>
    .text ("EXISTS (SELECT 1 \nFROM " ++ rows.text dialect ++ " \nWHERE ") :: inner.pieces dialect ++ [.text ")"]
  | .group inner => .text "(" :: inner.pieces dialect ++ [.text ")"]
  | .joined junction terms => separated junction.separator (Cond.listPieces dialect terms)

def Cond.listPieces (dialect : Dialect) : List Cond → List (List Piece)
  | [] => []
  | cond :: rest => cond.pieces dialect :: Cond.listPieces dialect rest

end

def Cond.written (dialect : Dialect) (cond : Cond) : List Piece :=
  if stepLimit < cond.steps then [.refused .tooDeep] else cond.pieces dialect

/-- A column of a select list. One whose name is taken gets a numbered name, with a longer stroke when it
is the same column once more; `inner` says whether it is named in any case, `derived` whether its own
name may have been cut. -/
def columnPieces (dialect : Dialect) (inner derived : Bool) (before : List Item) (table name : String) : List Piece :=
  let own : List Piece :=
    if derived then [.text (dialect.bareName table ++ "."), .name name]
    else [.text (dialect.expr (.column table name))]
  let isNamesake : Item → Bool
    | .column _ other => other == name
    | _ => false
  own ++
    if before.contains (.column table name) then [.text " AS ", .numbered (columnBase (name ++ "_"))]
    else if before.any isNamesake then [.text " AS ", .numbered (columnBase name)]
    else if inner then [.text " AS ", .name name]
    else []

/-- A constant of a select list, with a longer stroke in its name when it is there once more. -/
def constantPieces (before : List Item) (item : Item) (literal : String) : List Piece :=
  [.text (literal ++ " AS "), .numbered (if before.contains item then "anon_" else "anon")]

def itemPieces (dialect : Dialect) (inner derived : Bool) : (before : List Item) → List Item → List (List Piece)
  | _, [] => []
  | before, item :: rest =>
    (match item with
      | .column table name => columnPieces dialect inner derived before table name
      | .text sql => [.text (dialect.plain sql)]
      | .part table sql => [.text (dialect.bareName table ++ "." ++ dialect.plain sql)]
      | .lowered content => [.text (dialect.expr (.lower content) ++ " AS "), .numbered "lower"]
      | .truth flag => constantPieces before item (dialect.truthLiteral flag)
      | .null => constantPieces before item "NULL"
      | .rowMark => [.text "'1' AS row_count"]
      | .rowCount => [.text "count(*) AS ", .numbered "count"]) ::
      itemPieces dialect inner derived (item :: before) rest

def TableName.text (dialect : Dialect) (name : TableName) : String :=
  match name.alias? with
  | some given => dialect.bareName name.table ++ dialect.aliasWord ++ dialect.bareName given
  | none => dialect.bareName name.table

def Join.pieces (dialect : Dialect) (join : Join) : List Piece :=
  .text ((if join.outer then " LEFT OUTER JOIN " else dialect.innerJoin) ++ join.target.text dialect ++ " ON ") ::
    join.on.pieces dialect

def SortTerm.pieces (dialect : Dialect) : SortTerm → List Piece
  | .text sql => if sql = "" then [] else [.text (dialect.plain sql)]
  | .value content =>
    if dialect.doublesPercent then [.refused .noSuchMember]
    else if content.truthy then [.refused .wrongType] else []
  | .fragment content => [.fragment content]
  | .column expression => [.text (dialect.expr expression)]
  | .directed expression ascending => [.text (dialect.expr expression ++ (if ascending then " ASC" else " DESC"))]

def boundNumber (n : Int) : Piece := .bound "param" (.int n)

def windowPieces (dialect : Dialect) (offset limit : Option Int) : List Piece :=
  match dialect.window, limit, offset with
  | _, none, none => []
  | .limitOffset, some l, some o => [.text "\n LIMIT ", boundNumber l, .text " OFFSET ", boundNumber o]
  | .limitOffset, some l, none => [.text "\n LIMIT ", boundNumber l, .text " OFFSET ", boundNumber 0]
  | .limitOffset, none, some o => [.text "\n LIMIT ", .hidden "?" (.int (-1)), .text " OFFSET ", boundNumber o]
  | .standard, some l, some o => [.text "\n LIMIT ", boundNumber l, .text " OFFSET ", boundNumber o]
  | .standard, some l, none => [.text "\n LIMIT ", boundNumber l]
  | .standard, none, some o => [.text "\n LIMIT -1 OFFSET ", boundNumber o]
  | .limitAll, some l, some o => [.text " \n LIMIT ", boundNumber l, .text " OFFSET ", boundNumber o]
  | .limitAll, some l, none => [.text " \n LIMIT ", boundNumber l]
  | .limitAll, none, some o => [.text "\n LIMIT ALL OFFSET ", boundNumber o]
  | .offsetFirst, some l, some o => [.text " \n LIMIT ", boundNumber o, .text ", ", boundNumber l]
  | .offsetFirst, some l, none => [.text " \n LIMIT ", boundNumber l]
  | .offsetFirst, none, some o => [.text " \n LIMIT ", boundNumber o, .text ", 18446744073709551615"]
  | .fetchFirst, some l, some o =>
    [.text "\n OFFSET ", boundNumber o, .text " ROWS\n FETCH FIRST ", boundNumber l, .text " ROWS ONLY"]
  | .fetchFirst, some l, none => [.text "\n FETCH FIRST ", boundNumber l, .text " ROWS ONLY"]
  | .fetchFirst, none, some o => [.text "\n OFFSET ", boundNumber o, .text " ROWS"]

def optionalClause (opening : String) (pieces : List (List Piece)) : List Piece :=
  if pieces.isEmpty then [] else .text opening :: separated ", " pieces

/-- A source and what is joined to it. Joins to a text stand beside it, each with the text once more. -/
def joinedPieces (dialect : Dialect) (joins : List Join) (source : Source) (pieces : List Piece) : List Piece :=
  match source with
  | .text _ => separated ", " (pieces :: joins.map fun join => pieces ++ join.pieces dialect)
  | _ => pieces ++ joins.flatMap (Join.pieces dialect)

def Source.isDerived : Source → Bool
  | .derived .. => true
  | _ => false

mutual

def Source.pieces (dialect : Dialect) : Source → List Piece
  | .table name => [.text (name.text dialect)]
  | .text sql => [.text (dialect.plain sql)]
  | .derived name members =>
    .text "(" :: separated " UNION " (Select.listPieces dialect (1 < members.length) members) ++
      [.text (")" ++ dialect.aliasWord ++ dialect.bareName name)]

/-- The pieces of a statement; `inner` says whether it stands inside another one. -/
def Select.pieces (dialect : Dialect) (inner : Bool) : Select → List Piece
  | ⟨distinct, items, source, joins, filter, groups, havingOver, sorts, offset, limit⟩ =>
    let derived := source.any Source.isDerived
    let source := match source with
      | none => []
      | some source =>
        .text (if items.isEmpty then "\nFROM " else " \nFROM ") ::
          joinedPieces dialect joins source (source.pieces dialect)
    .text ("SELECT " ++ (if distinct then "DISTINCT " else "")) ::
      separated ", " (itemPieces dialect inner derived [] items) ++ source ++
      (match filter with
        | none => []
        | some cond => .text " \nWHERE " :: cond.written dialect) ++
      optionalClause " GROUP BY " (groups.map fun e => [.text (dialect.expr e)]) ++
      (match havingOver with
        | none => []
        | some n => [.text " \nHAVING count(*) > ", .bound "count" (.int n)]) ++
      optionalClause " ORDER BY " ((sorts.map (SortTerm.pieces dialect)).filter (!·.isEmpty)) ++
      windowPieces dialect offset limit

/-- The pieces of the statements of a union; one with an order of its own is enclosed. -/
def Select.listPieces (dialect : Dialect) (united : Bool) : List Select → List (List Piece)
  | [] => []
  | select :: rest =>
    let pieces := select.pieces dialect true
    (if united && !select.sorts.isEmpty then .text "(" :: pieces ++ [.text ")"] else pieces) ::
      Select.listPieces dialect united rest

end

/-- The values bound in pieces, in their order; a list is one value. A name without a place is one name
in the whole statement; `shared` holds those seen. -/
def valuesFrom (shared : List String) : List Piece → List Value
  | [] => []
  | .text _ :: rest | .name _ :: rest | .numbered _ :: rest | .refused _ :: rest => valuesFrom shared rest
  | .bound _ value :: rest | .hidden _ value :: rest => value :: valuesFrom shared rest
  | .members _ values _ :: rest => .list values :: valuesFrom shared rest
  | .fragment content :: rest =>
    content.valuesFrom (shared.filter content.freeNames.contains) ++ valuesFrom (content.freeNames ++ shared) rest

def boundValues (pieces : List Piece) : List Value := valuesFrom [] pieces

/-- The members of a list inline; without any, a subquery without rows, or a null and a comparison that
decides the outcome. -/
def membersInline (dialect : Dialect) (values : List Value) (negated : Bool) : Except Error String :=
  if values.isEmpty then
    .ok (match dialect.emptyList with
      | .subquery => "SELECT 1 FROM (SELECT 1) WHERE 1!=1"
      | .constants => if negated then "NULL) OR (1 = 1" else "NULL) AND (1 != 1")
  else return ", ".intercalate (← dialect.memberLiterals values)

/-- The characters of a fragment before the last step, values and their names written by `write`. -/
def fragmentChars (dialect : Dialect) (write : String → Value → Except Error String) :
    Fragment → Except Error (List Char)
  | [] => .ok []
  | .chars content :: rest => return dialect.percent content ++ (← fragmentChars dialect write rest)
  | .place name value :: rest => return (← write name value).toList ++ (← fragmentChars dialect write rest)
  | .free name :: rest => return (← write name .null).toList ++ (← fragmentChars dialect write rest)

def fragmentText (dialect : Dialect) (write : String → Value → Except Error String) (content : Fragment) :
    Except Error String :=
  return String.ofList (Fragment.unescapeColons (← fragmentChars dialect write content))

def Namer.shownColumn (dialect : Dialect) (name : String) : Namer String :=
  return dialect.bareName (← Namer.column dialect name)

def Piece.inline (dialect : Dialect) : Piece → Namer String
  | .text content | .hidden content _ => return content
  | .name content => Namer.shownColumn dialect content
  | .numbered base => do Namer.shownColumn dialect (← Namer.numbered base)
  | .bound _ value => liftM (dialect.literal value)
  | .members _ values negated => liftM (membersInline dialect values negated)
  | .fragment content => liftM (fragmentText dialect (fun _ => dialect.literal) content)
  | .refused cause => throw cause

def Piece.placeholders (dialect : Dialect) : Piece → Namer String
  | .bound base _ => return dialect.placeholder.write (← Namer.value dialect base)
  | .hidden content _ => do
    discard (Namer.value dialect "param")
    return content
  | .members base _ _ => return "__[POSTCOMPILE_" ++ shownName (← Namer.value dialect base) ++ "]"
  | .fragment content => do
    let names ← Namer.fragment dialect [] content
    liftM (fragmentText dialect (fun name _ => .ok (dialect.placeholder.write ((names.lookup name).getD name))) content)
  | piece => piece.inline dialect

def writtenText (write : Piece → Namer String) (pieces : List Piece) : Except Error String :=
  return String.join (← (pieces.mapM write).run' {})

def inlineText (dialect : Dialect) (pieces : List Piece) : Except Error String :=
  writtenText (Piece.inline dialect) pieces

def placeholderText (dialect : Dialect) (pieces : List Piece) : Except Error String :=
  writtenText (Piece.placeholders dialect) pieces

end DataGrid.Sql
