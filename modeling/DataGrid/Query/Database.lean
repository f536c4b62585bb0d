import DataGrid.Query

/-!
The database behind a query as what it will answer: the single values and the pages of rows still to
come, and the statements sent so far. When the answers run out, it returns null and no rows.
-/

namespace DataGrid

open Sql

abbrev Row := List (String × Value)

structure Database where
  scalars : List Value
  pages : List (List Row)
  sent : List Select := []

namespace Database

def scalar (statement : Select) : Action (Option Database) Value := fun database =>
  match database with
  | none => (.error .notBound, none)
  | some database =>
    (.ok (database.scalars.headD .null),
      some { database with scalars := database.scalars.drop 1, sent := database.sent ++ [statement] })

def recordOf (row : Row) : Row := row.foldl (fun fields (name, value) => Value.setField fields name value) []

def rows (statement : Select) : Action (Option Database) (List Row) := fun database =>
  match database with
  | none => (.error .notBound, none)
  | some database =>
    (.ok ((database.pages.headD []).map recordOf),
      some { database with pages := database.pages.drop 1, sent := database.sent ++ [statement] })

end Database

end DataGrid
