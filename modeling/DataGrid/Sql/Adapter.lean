import DataGrid.Sql.Condition
import DataGrid.Sql.Identifier
import DataGrid.Template.Percent

/-!
What differs between families of databases beyond spelling: paths into JSON columns, regular
expressions, and the cast that lets a column be searched as text. Names that a request supplies reach
SQL through `column` and `jsonPath` only, quoted there.
-/

namespace DataGrid.Sql

inductive Family where
  | generic | mysql | postgresql | oracle
  deriving DecidableEq, Repr

def Family.name : Family → String
  | .generic => "generic"
  | .mysql => "mysql"
  | .postgresql => "postgresql"
  | .oracle => "oracle"

structure Adapter where
  dialect : Dialect
  family : Family

namespace Adapter

/-- The adapter of a database; `oracle` asks for Oracle's expressions whatever the database is. -/
def ofDialect (dialect : Dialect) (oracle : Bool) : Adapter where
  dialect := dialect
  family :=
    if oracle then .oracle
    else if dialect.name = "mysql" || dialect.name = "mariadb" then .mysql
    else if dialect.name = "postgresql" then .postgresql
    else if dialect.name = "oracle" then .oracle
    else .generic

def quoteLiteral (adapter : Adapter) (chars : List Char) : List Char :=
  let escaped := match adapter.family with
    | .mysql => chars.flatMap fun c => if c = '\\' then ['\\', '\\'] else [c]
    | _ => chars
  '\'' :: escaped.flatMap (fun c => if c = '\'' then ['\'', '\''] else [c]) ++ ['\'']

def quoteIdentifier (adapter : Adapter) (name : String) : String := adapter.dialect.identifier name

def column (adapter : Adapter) (name : String) : Expr := .literal (adapter.quoteIdentifier name)

def jsonPath (adapter : Adapter) (column path : String) : Except Error String :=
  match adapter.family with
  | .mysql =>
    .ok (adapter.quoteIdentifier column ++ "->" ++ String.ofList (adapter.quoteLiteral ('$' :: '.' :: path.toList)))
  | .postgresql =>
    let steps := path.toList.map fun c => if c = '.' then ',' else c
    .ok (adapter.quoteIdentifier column ++ "#>>" ++
      String.ofList (adapter.quoteLiteral ('\x7b' :: steps ++ ['\x7d'])))
  | _ => .error (.noJsonPath adapter.dialect.name)

def castText (adapter : Adapter) (expression : Expr) : Expr :=
  match adapter.family with
  | .postgresql => .cast expression "TEXT"
  | _ => if adapter.dialect.name = "firebird" then .cast expression "VARCHAR(255)" else expression

def regexp (adapter : Adapter) (expression : Expr) (pattern : String) (ignoreCase : Bool) : Atom :=
  match adapter.family with
  | .postgresql => .regexp expression (if ignoreCase then "~*" else "~") pattern
  | .oracle =>
    if ignoreCase then .regexpLike (.lower expression) pattern true else .regexpLike expression pattern false
  | .generic | .mysql =>
    if ignoreCase then .regexp (.lower expression) "REGEXP" (Text.lowerString pattern)
    else .regexp expression "REGEXP" pattern

/-- The order of a column with nulls at the end: the template filled with the column and direction. -/
def nullsLast (column direction : String) (template : Value) : Except Error String :=
  match template with
  | .text s => Template.fill s [column, direction]
  | _ => .error .wrongType

end Adapter

end DataGrid.Sql
