import DataGrid.Yaml.Form
import DataGrid.Yaml.Token

/-!
The nodes of a YAML document, put together from its tokens. A node says what it stands for, an alias is
the node of its anchor, and a collection may hold itself.
-/

namespace DataGrid.Yaml

/-- What a node says about its tag: nothing, that it is not plain, or the tag. -/
inductive Tag where
  | none | nonSpecific
  | named (name : String)
  deriving DecidableEq, Repr

abbrev NodeId := Nat

inductive Shape where
  | scalar (content : String)
  | sequence (items : List NodeId)
  | mapping (entries : List (NodeId × NodeId))
  deriving Repr

structure Node where
  form : Option Form
  shape : Shape
  deriving Repr

structure Document where
  nodes : Array Node
  root : NodeId

structure Reading where
  tokens : List Token
  failure : Option Error
  handles : List (String × String) := []
  anchors : List (String × NodeId) := []
  nodes : Array Node := #[]
  depth : Nat := 0

abbrev Reader (α : Type) := StateT Reading (Except Error) α

namespace Reader

def badNesting : Error := .malformedYaml .nesting

def badReference : Error := .malformedYaml .reference

def peek : Reader Token := do
  let reading ← get
  match reading.tokens with
  | token :: _ => return token
  | [] => throw (reading.failure.getD badNesting)

def drop : Reader Unit := modify fun reading => { reading with tokens := reading.tokens.drop 1 }

def take (token : Token) : Reader Bool := do
  if (← peek) = token then
    drop
    return true
  else return false

def require (token : Token) : Reader Unit := do
  if !(← take token) then throw badNesting

def oneOf (choices : List Token) : Reader Bool := return choices.contains (← peek)

def put (node : Node) : Reader NodeId := do
  let id := (← get).nodes.size
  modify fun reading => { reading with nodes := reading.nodes.push node }
  return id

def empty : Reader NodeId := put ⟨some .null, .scalar ""⟩

def commonHandles : List (String × String) := [("!", "!"), ("!!", commonTag)]

def resolveTag (handle : Option String) (suffix : String) : Reader Tag := do
  match handle with
  | none => return if suffix = "!" then .nonSpecific else .named suffix
  | some handle =>
    match (← get).handles.lookup handle with
    | some lead => return if lead ++ suffix = "!" then .nonSpecific else .named (lead ++ suffix)
    | none => throw badNesting

def properties : Reader (Option String × Tag) := do
  match ← peek with
  | .anchor name =>
    drop
    match ← peek with
    | .tag handle suffix =>
      drop
      return (some name, ← resolveTag handle suffix)
    | _ => return (some name, .none)
  | .tag handle suffix =>
    drop
    match ← peek with
    | .anchor name =>
      drop
      return (some name, ← resolveTag handle suffix)
    | _ => return (none, ← resolveTag handle suffix)
  | _ => return (none, .none)

/-- What a scalar stands for; one that is not plain and has no tag is a text. -/
def scalarForm (tag : Tag) (content : String) (plain : Bool) : Option Form :=
  match tag with
  | .none => some (if plain then Form.ofPlain content else .text)
  | .nonSpecific => some (Form.ofPlain content)
  | .named name => Form.ofTag? name

def collectionForm (usual : Form) (tag : Tag) : Option Form :=
  match tag with
  | .none | .nonSpecific => some usual
  | .named name => Form.ofTag? name

def anchored (anchor : Option String) (node : Node) : Reader NodeId := do
  match anchor with
  | some name =>
    if ((← get).anchors.lookup name).isSome then throw badReference
    let id ← put node
    modify fun reading => { reading with anchors := reading.anchors ++ [(name, id)] }
    return id
  | none => put node

/-- Goes into a collection; each takes two steps, and a token takes some more. -/
def deepen : Reader Unit := do
  let depth := (← get).depth + 1
  if stepLimit < 2 * depth + 20 then throw .tooDeep
  modify fun reading => { reading with depth }

/-- Puts a collection into the document, first without what it holds, which may go back to it. -/
def collection (anchor : Option String) (form : Option Form) (content : Reader Shape) : Reader NodeId := do
  let id ← anchored anchor ⟨form, .sequence []⟩
  deepen
  let shape ← content
  modify fun reading =>
    { reading with nodes := reading.nodes.setIfInBounds id ⟨form, shape⟩, depth := reading.depth - 1 }
  return id

inductive Place where
  | block | afterKey | flow
  deriving DecidableEq

mutual

/-- Reads a node. `fuel` bounds the tokens that are left. -/
def node (place : Place) : (fuel : Nat) → Reader NodeId
  | 0 => throw badNesting
  | fuel + 1 => do
    match ← peek with
    | .alias name =>
      drop
      match (← get).anchors.lookup name with
      | some id => return id
      | none => throw badReference
    | _ =>
      let (anchor, tag) ← properties
      let items (content : Reader (List NodeId)) : Reader NodeId :=
        collection anchor (collectionForm .sequence tag) (return .sequence (← content))
      let entries (content : Reader (List (NodeId × NodeId))) : Reader NodeId :=
        collection anchor (collectionForm .mapping tag) (return .mapping (← content))
      match ← peek, place with
      | .blockEntry, .afterKey => items (flushItems fuel)
      | .scalar content plain, _ =>
        drop
        anchored anchor ⟨scalarForm tag content plain, .scalar content⟩
      | .flowSequenceStart, _ =>
        drop
        items (flowItems true fuel)
      | .flowMappingStart, _ =>
        drop
        entries (flowEntries true fuel)
      | .blockSequenceStart, .block | .blockSequenceStart, .afterKey =>
        drop
        items (blockItems fuel)
      | .blockMappingStart, .block | .blockMappingStart, .afterKey =>
        drop
        entries (blockEntries fuel)
      | _, _ =>
        if anchor.isNone && tag = .none then throw badNesting
        anchored anchor ⟨scalarForm tag "" true, .scalar ""⟩

def nodeUnless (ends : List Token) (place : Place) : (fuel : Nat) → Reader NodeId
  | 0 => throw badNesting
  | fuel + 1 => do if ← oneOf ends then empty else node place fuel

def blockItems : (fuel : Nat) → Reader (List NodeId)
  | 0 => throw badNesting
  | fuel + 1 => do
    if ← take .blockEntry then
      let item ← nodeUnless [.blockEntry, .blockEnd] .block fuel
      return item :: (← blockItems fuel)
    require .blockEnd
    return []

def flushItems : (fuel : Nat) → Reader (List NodeId)
  | 0 => throw badNesting
  | fuel + 1 => do
    if ← take .blockEntry then
      let item ← nodeUnless [.blockEntry, .key, .value, .blockEnd] .block fuel
      return item :: (← flushItems fuel)
    return []

def blockEntries : (fuel : Nat) → Reader (List (NodeId × NodeId))
  | 0 => throw badNesting
  | fuel + 1 => do
    if ← take .key then
      let ends := [Token.key, .value, .blockEnd]
      let key ← nodeUnless ends .afterKey fuel
      let value ← if ← take .value then nodeUnless ends .afterKey fuel else empty
      return (key, value) :: (← blockEntries fuel)
    require .blockEnd
    return []

/-- The items of a flow sequence; a key with its value is a mapping of its own. -/
def flowItems (first : Bool) : (fuel : Nat) → Reader (List NodeId)
  | 0 => throw badNesting
  | fuel + 1 => do
    if ← take .flowSequenceEnd then return []
    if !first then require .flowEntry
    if ← take .key then
      let item ← collection none (some .mapping) do
        let key ← nodeUnless [.value, .flowEntry, .flowSequenceEnd] .flow fuel
        let value ← if ← take .value then nodeUnless [.flowEntry, .flowSequenceEnd] .flow fuel else empty
        return .mapping [(key, value)]
      return item :: (← flowItems false fuel)
    if ← take .flowSequenceEnd then return []
    let item ← node .flow fuel
    return item :: (← flowItems false fuel)

def flowEntries (first : Bool) : (fuel : Nat) → Reader (List (NodeId × NodeId))
  | 0 => throw badNesting
  | fuel + 1 => do
    if ← take .flowMappingEnd then return []
    if !first then require .flowEntry
    if ← take .key then
      let key ← nodeUnless [.value, .flowEntry, .flowMappingEnd] .flow fuel
      let value ← if ← take .value then nodeUnless [.flowEntry, .flowMappingEnd] .flow fuel else empty
      return (key, value) :: (← flowEntries false fuel)
    if ← take .flowMappingEnd then return []
    let key ← node .flow fuel
    return (key, ← empty) :: (← flowEntries false fuel)

end

def directives : (fuel : Nat) → (version : Bool) → (handles : List (String × String)) → Reader (List (String × String))
  | 0, _, handles => return handles
  | fuel + 1, version, handles => do
    match ← peek with
    | .versionDirective major =>
      drop
      if version || major ≠ 1 then throw badNesting
      directives fuel true handles
    | .tagDirective handle lead =>
      drop
      if (handles.lookup handle).isSome then throw badNesting
      directives fuel version ((handle, lead) :: handles)
    | .otherDirective =>
      drop
      directives fuel version handles
    | _ => return handles

def skipEnds : (fuel : Nat) → Reader Unit
  | 0 => return
  | fuel + 1 => do if ← take .documentEnd then skipEnds fuel

/-- Goes to the start of a document; the answer says whether there is one. -/
def documentStart (fuel : Nat) : Reader Bool := do
  skipEnds fuel
  if (← peek) = .streamEnd then return false
  let handles ← directives fuel false []
  require .documentStart
  modify fun reading => { reading with handles := handles ++ commonHandles }
  return true

def startsContent : Token → Bool
  | .versionDirective _ | .tagDirective .. | .otherDirective | .documentStart | .documentEnd | .streamEnd => false
  | _ => true

def single (fuel : Nat) : Reader (Option NodeId) := do
  let root? ← match ← peek with
    | .versionDirective _ | .tagDirective .. | .otherDirective | .documentStart | .streamEnd =>
      if ← documentStart fuel then
        let next ← peek
        let root ← if startsContent next then node .block fuel else empty
        pure (some root)
      else pure none
    | _ =>
      modify fun reading => { reading with handles := commonHandles }
      let root ← node .block fuel
      pure (some root)
  if root?.isSome then
    let _ ← take .documentEnd
    if ← documentStart fuel then throw badReference
  return root?

end Reader

def Document.ofText? (source : List Char) : Except Error (Option Document) := do
  let chars := unifyLines source
  if !chars.all isReadable then throw (.malformedYaml .character)
  let (tokens, failure) := tokens chars
  let (root?, reading) ← (Reader.single (4 * tokens.length + 8)).run { tokens := tokens, failure := failure }
  return root?.map fun root => ⟨reading.nodes, root⟩

end DataGrid.Yaml
