import LineScopes.Yaml.Cursor
import LineScopes.Yaml.Token

/-!
# YAML nodes

The values of a document as they are written: scalars are texts, and aliases
stand for the nodes that anchors have named. A text holds one document or
none.
-/

namespace LineScopes.Yaml

inductive Node
  | scalar (text : String) (style : Style) (tag : Option String)
  | list (tag : Option String) (items : List Node)
  | map (tag : Option String) (entries : List (Node × Node))
  | alias (target : Nat)
  deriving Inhabited

namespace Node

/-- What stands where nothing is written. -/
def empty : Node := scalar "" .plain none

end Node

/-- Anchors have numbers, which aliases refer to. The number of an anchor is how many names were
known before it; a name that is given again does not count again. -/
structure Anchors where
  names : List (String × Nat) := []
  /-- The nodes in the order in which they begin, the last one first; a node is known when it
  has been read. -/
  nodes : List (Nat × Option Node) := []

/-- What is needed to read nodes: the tokens that are left, the meanings of tag handles, and
the anchors. -/
structure Feed where
  tokens : List Token
  handles : List (String × String) := []
  anchors : Anchors := {}

abbrev Feeding := StateT Feed (Except Fault)

namespace Feeding

def peek : Feeding (Option Token) := return (← get).tokens.head?

def drop : Feeding Unit := modify fun feed => { feed with tokens := feed.tokens.tail }

/-! ## Anchors and tags -/

/-- Gives a name to the node that begins; answers its place among the named nodes. -/
def name (anchor : String) : Feeding Nat := do
  let feed ← get
  let number := feed.anchors.names.length
  let names := (anchor, number) :: feed.anchors.names.filter (·.1 ≠ anchor)
  set { feed with anchors := { names, nodes := (number, none) :: feed.anchors.nodes } }
  return feed.anchors.nodes.length

def setNode (place : Nat) (node : Node) : Feeding Unit := modify fun feed =>
  let index := feed.anchors.nodes.length - 1 - place
  { feed with
    anchors.nodes := feed.anchors.nodes.modify index fun (number, _) => (number, some node) }

def aliased (name : String) : Feeding Node := do
  match (← get).anchors.names.lookup name with
  | some number => return .alias number
  | none => throw "an alias has no anchor"

/-- The handles that need no directive. -/
def knownHandles : List (String × String) := [("!", "!"), ("!!", "tag:yaml.org,2002:")]

def resolveTag (handle suffix : String) : Feeding String := do
  if handle.isEmpty then return suffix
  match ((← get).handles ++ knownHandles).lookup handle with
  | some meaning => return meaning ++ suffix
  | none => throw "a tag has an unknown handle"

/-- What may stand before a node. -/
structure Properties where
  place : Option Nat := none
  tag : Option String := none

def Properties.isEmpty (properties : Properties) : Bool :=
  properties.place.isNone && properties.tag.isNone

def anchor? : Feeding (Option String) := do
  match ← peek with
  | some (.anchor name) => do drop; return some name
  | _ => return none

def tag? : Feeding (Option String) := do
  match ← peek with
  | some (.tag handle suffix) => do drop; return some (← resolveTag handle suffix)
  | _ => return none

/-- An anchor and a tag in either order, each at most once. -/
def properties : Feeding Properties := do
  let first ← anchor?
  let tag ← tag?
  let anchor ← if first.isSome ∨ tag.isNone then pure first else anchor?
  return { place := ← anchor.mapM name, tag }

/-! ## Nodes -/

/-- Where a node is read, which tells what it can be. -/
inductive Surroundings
  | flow
  | block
  /-- A key or value of a block map, whose list need not stand further to the right. -/
  | blockMap
  deriving DecidableEq

def isOneOf (tokens : List Token) (token : Option Token) : Bool := token.any tokens.contains

/-- A node, unless one of these tokens follows, which leave none. -/
def nodeUnless (read : Surroundings → Feeding Node) (around : Surroundings) (ends : List Token) :
    Feeding Node := do
  if isOneOf ends (← peek) then return .empty else read around

/-- A value with its colon, or nothing. -/
def valueUnless (read : Surroundings → Feeding Node) (around : Surroundings) (ends : List Token) :
    Feeding Node := do
  if (← peek) = some .value then
    drop
    nodeUnless read around ends
  else return .empty

def blockItems (read : Surroundings → Feeding Node) (done : List Node) :
    (fuel : Nat) → Feeding (List Node)
  | 0 => throw "a block list does not end"
  | fuel + 1 => do
    match ← peek with
    | some .blockEntry => do
      drop
      let item ← nodeUnless read .block [.blockEntry, .blockEnd]
      blockItems read (item :: done) fuel
    | some .blockEnd => do drop; return done.reverse
    | _ => throw "an entry of a block list has no dash"

/-- The items of a list that stands at the column of the map around it. -/
def indentlessItems (read : Surroundings → Feeding Node) (done : List Node) :
    (fuel : Nat) → Feeding (List Node)
  | 0 => throw "a block list does not end"
  | fuel + 1 => do
    if (← peek) = some .blockEntry then
      drop
      let item ← nodeUnless read .block [.blockEntry, .key, .value, .blockEnd]
      indentlessItems read (item :: done) fuel
    else return done.reverse

def blockEntries (read : Surroundings → Feeding Node) (done : List (Node × Node)) :
    (fuel : Nat) → Feeding (List (Node × Node))
  | 0 => throw "a block map does not end"
  | fuel + 1 => do
    match ← peek with
    | some .key => do
      drop
      let key ← nodeUnless read .blockMap [.key, .value, .blockEnd]
      let value ← valueUnless read .blockMap [.key, .value, .blockEnd]
      blockEntries read ((key, value) :: done) fuel
    | some .blockEnd => do drop; return done.reverse
    | _ => throw "an entry of a block map has no key"

/-- An entry of a flow list that is a map of one entry. A key that is left out takes the token
in its place with it. -/
def flowPair (read : Surroundings → Feeding Node) : Feeding Node := do
  let key ←
    if isOneOf [.value, .flowEntry, .flowListEnd] (← peek) then do drop; pure .empty
    else read .flow
  let value ← valueUnless read .flow [.flowEntry, .flowListEnd]
  return .map none [(key, value)]

/-- Passes the comma before any but the first entry. -/
def comma (isFirst : Bool) : Feeding Unit := do
  if isFirst then return
  if (← peek) = some .flowEntry then drop else throw "entries are not separated by a comma"

def flowItems (read : Surroundings → Feeding Node) (done : List Node) :
    (fuel : Nat) → Feeding (List Node)
  | 0 => throw "a flow list does not end"
  | fuel + 1 => do
    if (← peek) = some .flowListEnd then
      drop
      return done.reverse
    comma done.isEmpty
    match ← peek with
    | some .flowListEnd => do drop; return done.reverse
    | some .key => do drop; flowItems read ((← flowPair read) :: done) fuel
    | _ => flowItems read ((← read .flow) :: done) fuel

def flowEntries (read : Surroundings → Feeding Node) (done : List (Node × Node)) :
    (fuel : Nat) → Feeding (List (Node × Node))
  | 0 => throw "a flow map does not end"
  | fuel + 1 => do
    if (← peek) = some .flowMapEnd then
      drop
      return done.reverse
    comma done.isEmpty
    match ← peek with
    | some .flowMapEnd => do drop; return done.reverse
    | some .key => do
      drop
      let key ← nodeUnless read .flow [.value, .flowEntry, .flowMapEnd]
      let value ← valueUnless read .flow [.flowEntry, .flowMapEnd]
      flowEntries read ((key, value) :: done) fuel
    | _ => flowEntries read ((← read .flow, .empty) :: done) fuel

/-- What follows the properties of a node. -/
def content (read : Surroundings → Feeding Node) (around : Surroundings)
    (properties : Properties) : Feeding Node := do
  let fuel := (← get).tokens.length + 1
  let tag := properties.tag
  let start ← peek
  match start with
  | some (.scalar text style) => do drop; return .scalar text style tag
  | some .flowListStart => do drop; return .list tag (← flowItems read [] fuel)
  | some .flowMapStart => do drop; return .map tag (← flowEntries read [] fuel)
  | _ =>
    if around = .blockMap ∧ start = some .blockEntry then
      return .list tag (← indentlessItems read [] fuel)
    else if around ≠ .flow ∧ start = some .blockListStart then
      drop
      return .list tag (← blockItems read [] fuel)
    else if around ≠ .flow ∧ start = some .blockMapStart then
      drop
      return .map tag (← blockEntries read [] fuel)
    else if properties.isEmpty then throw "a node has no content"
    else return .scalar "" .plain tag

/-- Reads a node; each level of nodes takes a token. -/
def node : (fuel : Nat) → Surroundings → Feeding Node
  | 0, _ => throw "a node does not end"
  | fuel + 1, around => do
    match ← peek with
    | some (.alias name) => do drop; aliased name
    | _ => do
      let properties ← properties
      let node ← content (node fuel) around properties
      if let some place := properties.place then setNode place node
      return node

/-! ## Documents -/

/-- Directives before a document. -/
def directives (hasVersion : Bool) : (fuel : Nat) → Feeding Unit
  | 0 => return
  | fuel + 1 => do
    match ← peek with
    | some (.version major minor) => do
      drop
      if hasVersion then throw "a document has two versions"
      if major ≠ 1 ∨ (minor ≠ 1 ∧ minor ≠ 2) then throw "a version is not known"
      directives true fuel
    | some (.tagDirective handle meaning) => do
      drop
      if ((← get).handles.lookup handle).isSome then throw "a handle has two meanings"
      modify fun feed => { feed with handles := (handle, meaning) :: feed.handles }
      directives hasVersion fuel
    | _ => return

def isDirective : Option Token → Bool
  | some (.version ..) | some (.tagDirective ..) => true
  | _ => false

def dropEnds : (fuel : Nat) → Feeding Unit
  | 0 => return
  | fuel + 1 => do
    if (← peek) = some .documentEnd then
      drop
      dropEnds fuel

/-- The node of the only document; none in a text without any. -/
def document : Feeding (Option Node) := do
  let fuel := (← get).tokens.length + 1
  if (← peek).isNone then return none
  let root ←
    if isDirective (← peek) ∨ (← peek) = some .documentStart then do
      directives false fuel
      if (← peek) ≠ some .documentStart then throw "directives are not followed by a document"
      drop
      let next ← peek
      if next.isNone ∨ isDirective next ∨ next = some .documentStart ∨ next = some .documentEnd then
        pure .empty
      else node fuel .block
    else node fuel .block
  dropEnds fuel
  if (← peek).isSome then throw "a text holds more than one document"
  return some root

end Feeding

end LineScopes.Yaml
