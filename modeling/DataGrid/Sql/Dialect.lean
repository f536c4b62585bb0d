import DataGrid.Sql.Reserved
import DataGrid.Text.Lower

/-!
What sets one database's SQL apart from another's, as one record per database: quoting, percent signs,
truth values, moments, empty lists, windows, placeholders and the length of names.
-/

namespace DataGrid.Sql

/-- How an empty list is written after `IN`. -/
inductive EmptyList where
  | subquery
  | constants
  deriving DecidableEq, Repr

inductive WindowStyle where
  | limitOffset | standard | limitAll | offsetFirst | fetchFirst
  deriving DecidableEq, Repr

inductive PlaceholderStyle where
  | question | percent
  | colon
  | percentNamed
  deriving DecidableEq, Repr

def PlaceholderStyle.write (style : PlaceholderStyle) (name : String) : String :=
  match style with
  | .question => "?"
  | .percent => "%s"
  | .colon => ":" ++ name
  | .percentNamed => "%(" ++ name ++ ")s"

inductive MomentStyle where
  | plain
  | padded
  | conversion
  deriving DecidableEq, Repr

structure Dialect where
  name : String
  /-- The quote around a name; inside it is doubled. -/
  quote : Char
  reserved : List String
  /-- Characters that an unquoted name does not start with, besides digits and the dollar sign. -/
  forbiddenInitials : List Char
  /-- Percent signs are doubled, because the driver reads one as the start of a placeholder. -/
  doublesPercent : Bool
  truthWords : Bool
  truthStands : Bool
  doublesBackslash : Bool
  moments : MomentStyle
  knowsUuid : Bool
  emptyList : EmptyList
  window : WindowStyle
  innerJoin : String
  aliasWord : String
  placeholder : PlaceholderStyle
  longestName : Nat

namespace Dialect

def standard : Dialect where
  name := "default"
  quote := '"'
  reserved := standardWords
  forbiddenInitials := []
  doublesPercent := false
  truthWords := false
  truthStands := false
  doublesBackslash := false
  moments := .plain
  knowsUuid := false
  emptyList := .constants
  window := .standard
  innerJoin := " JOIN "
  aliasWord := " AS "
  placeholder := .colon
  longestName := 9999

def firebird : Dialect := { standard with name := "firebird" }

def sqlite : Dialect :=
  { standard with
    name := "sqlite", reserved := sqliteWords, moments := .padded, emptyList := .subquery, window := .limitOffset,
    placeholder := .question }

def postgresql : Dialect :=
  { standard with
    name := "postgresql", reserved := postgresqlWords, doublesPercent := true, truthWords := true,
    truthStands := true, knowsUuid := true, window := .limitAll, placeholder := .percentNamed, longestName := 63 }

def mysql : Dialect :=
  { standard with
    name := "mysql", quote := '\x60', reserved := mysqlWords, doublesPercent := true, truthWords := true,
    doublesBackslash := true, window := .offsetFirst, innerJoin := " INNER JOIN ", placeholder := .percent,
    longestName := 255 }

def mariadb : Dialect := { mysql with name := "mariadb", reserved := mariadbWords, knowsUuid := true }

def oracle : Dialect :=
  { standard with
    name := "oracle", reserved := oracleWords, forbiddenInitials := ['_'], moments := .conversion, window := .fetchFirst,
    truthStands := true, aliasWord := " ", longestName := 128 }

def all : List Dialect := [standard, firebird, sqlite, postgresql, mysql, mariadb, oracle]

def named? (name : String) : Option Dialect := all.find? fun dialect => dialect.name == name

def percent (dialect : Dialect) (chars : List Char) : List Char :=
  if dialect.doublesPercent then chars.flatMap fun c => if c = '%' then ['%', '%'] else [c] else chars

end Dialect

end DataGrid.Sql
