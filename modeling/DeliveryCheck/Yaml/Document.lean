import DeliveryCheck.Yaml.Layout
import DeliveryCheck.Yaml.Node

namespace DeliveryCheck.Yaml

structure Draft where
  tokens : List Token
  handles : List (String × String) := []
  /-- The latest number of each name that has been an anchor. -/
  anchors : List (String × Nat) := []

abbrev Build := StateT Draft Option

namespace Build

def size (draft : Draft) : Nat := draft.tokens.length

def peek? : Build (Option Token) := do
  return (← get).tokens.head?

def skip : Build Unit := modify fun draft => { draft with tokens := draft.tokens.tail }

def expect (token : Token) : Build Unit := do
  guard ((← peek?) = some token)
  skip

def takes (token : Token) : Build Bool := do
  if (← peek?) = some token then
    skip
    return true
  return false

def isNext (tokens : List Token) : Build Bool := do
  return (← peek?).any tokens.contains

def many {α : Type} (item : Build α) : Build (List α) := collectAll size item

/-- Numbers an anchor by how many names there have been; a name used before only gets a new number. -/
def anchorNumber (name : String) : Build Nat := do
  let draft ← get
  let number := draft.anchors.length
  set { draft with anchors := (name, number) :: draft.anchors.filter (·.1 ≠ name) }
  return number

def aliasNumber (name : String) : Build Nat := do
  ((← get).anchors.lookup name : Option Nat)

def resolveTag (tag : TagName) : Build String := do
  if tag.handle.isEmpty then return tag.suffix
  let leading ← ((← get).handles.lookup tag.handle : Option String)
  return leading ++ tag.suffix

def anchor : Build String := do
  match ← peek? with
  | some (.anchor name) =>
    skip
    return name
  | _ => failure

def tag : Build TagName := do
  match ← peek? with
  | some (.tag name) =>
    skip
    return name
  | _ => failure

def properties : Build Properties := do
  let early ← optional? anchor
  let name ← optional? tag
  let late ← if early.isSome then pure none else optional? anchor
  let resolved ← name.mapM resolveTag
  return ⟨← (early.or late).mapM anchorNumber, resolved⟩

/-- A node, or one left out if a token follows that cannot start it. -/
def nodeUnless (stops : List Token) (node : Build Node) : Build Node := do
  if (← isNext stops) then return .empty else node

/-- A scalar whose tag is a mark alone has no tag. -/
def scalar (found : Properties) (style : Style) (text : String) : Node :=
  .scalar { found with tag := found.tag.filter (· ≠ "!") } style text

section Collections

variable (blockNode : Build Node) (keyNode : Build Node) (flowNode : Build Node)

def blockSequence (found : Properties) : Build Node := do
  skip
  let items ← many do
    expect .blockEntry
    nodeUnless [.blockEntry, .blockEnd] blockNode
  expect .blockEnd
  return .sequence found items

def indentlessSequence (found : Properties) : Build Node := do
  let items ← many do
    expect .blockEntry
    nodeUnless [.blockEntry, .key, .value, .blockEnd] blockNode
  return .sequence found items

def blockMapping (found : Properties) : Build Node := do
  skip
  let part := nodeUnless [.key, .value, .blockEnd] keyNode
  let pairs ← many do
    expect .key
    let key ← part
    if ← takes .value then return (key, ← part) else return (key, .empty)
  expect .blockEnd
  return .mapping found pairs

def flowValue (closing : Token) : Build Node := do
  if ← takes .value then nodeUnless [.flowEntry, closing] flowNode else return .empty

/-- A key with its mark; in a flow mapping it may be left out. -/
def flowPair : Build (Node × Node) := do
  if ← takes .key then
    let key ← nodeUnless [.value, .flowEntry, .flowMappingEnd] flowNode
    return (key, ← flowValue flowNode .flowMappingEnd)
  else return (← flowNode, .empty)

/-- A single pair in a flow sequence. Where its key is left out, the token after the mark is lost. -/
def flowEntryPair : Build Node := do
  let key ←
    if ← isNext [.value, .flowEntry, .flowSequenceEnd] then
      skip
      pure .empty
    else flowNode
  return .mapping {} [(key, ← flowValue flowNode .flowSequenceEnd)]

def flowItem : Build Node := do
  if ← takes .key then flowEntryPair flowNode else flowNode

def flowEntries {α : Type} (closing : Token) (entry : Build α) : Build (List α) := do
  if ← takes closing then return []
  let first ← entry
  let others ← many do
    expect .flowEntry
    guard !(← isNext [closing])
    entry
  let _ ← takes .flowEntry
  expect closing
  return first :: others

def flowSequence (found : Properties) : Build Node := do
  skip
  return .sequence found (← flowEntries .flowSequenceEnd (flowItem flowNode))

def flowMapping (found : Properties) : Build Node := do
  skip
  return .mapping found (← flowEntries .flowMappingEnd (flowPair flowNode))

def flowContent (found : Properties) : Build Node := do
  match ← peek? with
  | some (.scalar style text) =>
    skip
    return scalar found style text
  | some .flowSequenceStart => flowSequence flowNode found
  | some .flowMappingStart => flowMapping flowNode found
  | _ =>
    guard (found ≠ {})
    return .scalar found .plain ""

def blockContent (found : Properties) : Build Node := do
  match ← peek? with
  | some .blockSequenceStart => blockSequence blockNode found
  | some .blockMappingStart => blockMapping keyNode found
  | _ => flowContent flowNode found

def keyContent (found : Properties) : Build Node := do
  if ← isNext [.blockEntry] then indentlessSequence blockNode found
  else blockContent blockNode keyNode flowNode found

end Collections

def nodeWith (content : Properties → Build Node) : Build Node := do
  match ← peek? with
  | some (.alias name) =>
    skip
    return .alias (← aliasNumber name)
  | _ => content (← properties)

inductive Place where
  | block
  | blockKey
  | flow

def nodeWithin : (depth : Nat) → Place → Build Node
  | 0, _ => failure
  | depth + 1, place =>
    nodeWith fun found =>
      let blockNode := nodeWithin depth .block
      let keyNode := nodeWithin depth .blockKey
      let flowNode := nodeWithin depth .flow
      match place with
      | .block => blockContent blockNode keyNode flowNode found
      | .blockKey => keyContent blockNode keyNode flowNode found
      | .flow => flowContent flowNode found

/-- No collection nests deeper than there are tokens. -/
def node : Build Node := do
  nodeWithin ((← get).tokens.length + 1) .block

def directive : Build Directive := do
  match ← peek? with
  | some (.directive directive) =>
    skip
    return directive
  | _ => failure

def usualHandles : List (String × String) := [("!", "!"), ("!!", "tag:yaml.org,2002:")]

/-- Whether directives agree with each other and with versions 1.1 and 1.2. -/
def areSound (directives : List Directive) : Bool :=
  let versions := directives.filterMap fun
    | .version major minor => some (major, minor)
    | _ => none
  let handles := directives.filterMap fun
    | .tag handle _ => some handle
    | _ => none
  versions.length ≤ 1 && versions.all (fun v => v == (1, 1) || v == (1, 2)) && handles.Nodup

def handlesOf (directives : List Directive) : List (String × String) :=
  directives.filterMap fun
    | .tag handle leading => some (handle, leading)
    | _ => none

def document : Build Node := do
  let directives ← many directive
  guard (areSound directives)
  modify fun draft => { draft with handles := handlesOf directives ++ usualHandles }
  if ← takes .documentStart then
    match ← peek? with
    | none | some .documentStart | some .documentEnd | some (.directive _) => return .empty
    | _ => node
  else
    guard directives.isEmpty
    node

def stream : Build (Option Node) := do
  if (← peek?).isNone then return none
  let root ← document
  let _ ← many (expect .documentEnd)
  guard (← peek?).isNone
  return some root

end Build

def read (text : String) : Option (Option Node) := do
  let tokens ← tokens? text
  return (← Build.stream { tokens := tokens }).1

end DeliveryCheck.Yaml
