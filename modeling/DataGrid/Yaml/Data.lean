import DataGrid.Value.Item
import DataGrid.Yaml.Node

/-!
What a YAML document says. Collections are filled one after the other in the order in which they are met,
so that one may hold itself. Mappings that are merged into another one stand in front of its own entries,
and of entries with one key the last counts.
-/

namespace DataGrid.Yaml

/-- What a node stands for; the members of collections by their nodes. -/
inductive Content where
  | scalar (value : Value)
  | list (items : List NodeId)
  | pairs (items : List (NodeId × NodeId))
  | set (members : List Value)
  | record (entries : List (Value × NodeId))

structure Building where
  nodes : Array Node
  contents : Array (Option Content)
  waiting : List NodeId := []

abbrev Builder (α : Type) := StateT Building (Except Error) α

def badData : Error := .malformedYaml .value

namespace Builder

def nodeAt (id : NodeId) : Builder Node := return ((← get).nodes[id]?).getD ⟨none, .scalar ""⟩

def setNode (id : NodeId) (node : Node) : Builder Unit :=
  modify fun building => { building with nodes := building.nodes.setIfInBounds id node }

def contentOf (id : NodeId) : Builder (Option Content) := return ((← get).contents[id]?).join

def setContent (id : NodeId) (content : Content) : Builder Unit :=
  modify fun building => { building with contents := building.contents.setIfInBounds id (some content) }

def entriesOf (id : NodeId) : Builder (List (NodeId × NodeId)) := do
  match (← nodeAt id).shape with
  | .mapping entries => return entries
  | _ => throw badData

mutual

/-- Makes the merges of a mapping, from an entry on; `before` are the entries that merges have brought.
`fuel` bounds the entries gone through. -/
def mergeFrom (id : NodeId) (before : List (NodeId × NodeId)) : (fuel index : Nat) → Builder Unit
  | 0, _ => throw badData
  | fuel + 1, index => do
    let node ← nodeAt id
    let entries ← entriesOf id
    match entries[index]? with
    | none => if !before.isEmpty then setNode id { node with shape := .mapping (before ++ entries) }
    | some (key, value) =>
      let keyNode ← nodeAt key
      match keyNode.form with
      | some .merge =>
        setNode id { node with shape := .mapping (entries.eraseIdx index) }
        let brought ← broughtEntries fuel value
        mergeFrom id (before ++ brought) fuel index
      | some .value =>
        setNode key { keyNode with form := some .text }
        mergeFrom id before fuel (index + 1)
      | _ => mergeFrom id before fuel (index + 1)

/-- The entries that a merge brings: those of a mapping, or of several, the first of which wins. -/
def broughtEntries : (fuel : Nat) → NodeId → Builder (List (NodeId × NodeId))
  | 0, _ => throw badData
  | fuel + 1, id => do
    match (← nodeAt id).shape with
    | .mapping _ =>
      mergeFrom id [] fuel 0
      entriesOf id
    | .sequence items => do
      let parts ← items.mapM fun item => do
        let _ ← entriesOf item
        mergeFrom item [] fuel 0
        entriesOf item
      return parts.reverse.flatten
    | .scalar _ => throw badData

end

/-- The text of a scalar: its own, or that of the default value of a mapping. -/
def textOf : (fuel : Nat) → NodeId → Builder String
  | 0, _ => throw badData
  | fuel + 1, id => do
    match (← nodeAt id).shape with
    | .scalar content => return content
    | .sequence _ => throw badData
    | .mapping entries =>
      let default ← entries.findM? fun (key, _) => return (← nodeAt key).form == some .value
      match default with
      | some (_, value) => textOf fuel value
      | none => throw badData

def isCollection (form : Form) : Bool := [Form.sequence, .mapping, .ordered, .pairs, .set].contains form

/-- Reads a node; a collection is read when its turn comes. -/
def build (id : NodeId) : Builder Unit := do
  if (← contentOf id).isNone then
    match (← nodeAt id).form with
    | none => throw badData
    | some form =>
      if isCollection form then
        setContent id (.list [])
        modify fun building => { building with waiting := building.waiting ++ [id] }
      else
        let text ← textOf ((← get).nodes.size + 1) id
        let isText := match (← nodeAt id).shape with
          | .scalar _ => true
          | _ => false
        if form = .moment && !isText then throw .wrongType
        setContent id (.scalar (← liftM (form.read text)))

/-- Sets an entry: in its place when the key is there, at the end otherwise. -/
def putEntry (key : Value) (id : NodeId) : List (Value × NodeId) → List (Value × NodeId)
  | [] => [(key, id)]
  | (other, old) :: rest =>
    if Value.same other key then (other, id) :: rest else (other, old) :: putEntry key id rest

def buildEntries (id : NodeId) : Builder (List (Value × NodeId)) := do
  let _ ← entriesOf id
  mergeFrom id [] ((← get).nodes.size + 1048576) 0
  (← entriesOf id).foldlM (fun before (key, value) => do
    build key
    match ← contentOf key with
    | some (.scalar content) =>
      build value
      return putEntry content value before
    | _ => throw badData) []

def buildPair (id : NodeId) : Builder (NodeId × NodeId) := do
  match ← entriesOf id with
  | [(key, value)] =>
    build key
    build value
    return (key, value)
  | _ => throw badData

def fill (id : NodeId) : Builder Unit := do
  let node ← nodeAt id
  match node.form with
  | some .mapping => setContent id (.record (← buildEntries id))
  | some .set => setContent id (.set ((← buildEntries id).map (·.1)))
  | form =>
    match node.shape with
    | .sequence items =>
      if form = some .sequence then
        items.forM build
        setContent id (.list items)
      else setContent id (.pairs (← items.mapM buildPair))
    | _ => throw badData

/-- Fills the waiting collections; `fuel` bounds how many there are. -/
def fillAll : (fuel : Nat) → Builder Unit
  | 0 => return
  | fuel + 1 => do
    match (← get).waiting with
    | [] => return
    | id :: rest =>
      modify fun building => { building with waiting := rest }
      fill id
      fillAll fuel

end Builder

structure Data where
  contents : Array (Option Content)
  root : NodeId

namespace Data

def contentAt? (data : Data) (id : NodeId) : Option Content := (data.contents[id]?).join

def sorted (members : List Value) : List Value :=
  members.mergeSort fun a b =>
    match Value.order a b with
    | .ok (some answer) => answer != .gt
    | _ => true

/-- A node as a value, to a depth; keys that are no texts count as they are shown. -/
def valueAt (data : Data) : (depth : Nat) → NodeId → Value
  | 0, _ => .null
  | depth + 1, id =>
    match data.contentAt? id with
    | none => .null
    | some (.scalar value) => value
    | some (.list items) => .list (items.map (data.valueAt depth))
    | some (.pairs items) => .list (items.map fun (key, value) => .list [data.valueAt depth key, data.valueAt depth value])
    | some (.set members) => .list (sorted members)
    | some (.record entries) => .object (entries.map fun (key, value) => (key.display, data.valueAt depth value))

def toValue (data : Data) (id : NodeId) : Value := data.valueAt (data.contents.size + 1) id

/-- Reads a text with one document; none when it is empty. -/
def ofText? (source : List Char) : Except Error (Option Data) := do
  match ← Document.ofText? source with
  | none => return none
  | some document =>
    let start : Building := { nodes := document.nodes, contents := document.nodes.map fun _ => none }
    let work : Builder Unit := do
      Builder.build document.root
      Builder.fillAll (document.nodes.size + 1)
    let (_, building) ← work.run start
    return some ⟨building.contents, document.root⟩

end Data

end DataGrid.Yaml
