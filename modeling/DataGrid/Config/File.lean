import DataGrid.Config
import DataGrid.Yaml.Data

/-!
Settings in a YAML file. An empty file leaves all settings at their defaults; like a record, a file may
hold them in a section of their own.
-/

namespace DataGrid.Config

open Yaml (Content Data NodeId)

/-- The settings of a record of a document. A template that is a set has no places to be counted. -/
def ofRecord (data : Data) (entries : List (Value × NodeId)) : Except Error Config := do
  checkNames (entries.map (·.1))
  let isSet (id : NodeId) : Bool := match data.contentAt? id with
    | some (.set _) => true
    | _ => false
  if entries.any fun (key, id) => key.isText "nulls_last_sql" && isSet id then throw .noSuchMember
  ofSettings (entries.map fun (key, id) => (key.display, data.toValue id))

def ofData (data : Data) : Except Error Config :=
  match data.contentAt? data.root with
  | some (.record entries) =>
    match entries.find? fun (key, _) => key.isText "datatables" with
    | some (_, id) =>
      match data.contentAt? id with
      | some (.record inner) => ofRecord data inner
      | _ => ofRecord data entries
    | none => ofRecord data entries
  | _ => ofValue (data.toValue data.root)

def ofYaml (source : String) : Except Error Config := do
  match ← Data.ofText? source.toList with
  | some data => ofData data
  | none => ofValue .null

end DataGrid.Config
