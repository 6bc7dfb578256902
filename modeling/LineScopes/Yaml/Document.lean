import LineScopes.Document.Basic
import LineScopes.Text.Number
import LineScopes.Yaml.Layout
import LineScopes.Yaml.Node

/-!
# YAML documents

The readers of the document descriptions. A scalar is a text whatever it looks
like, unless something else is wanted, and nothing at all will do for an empty
list or map. What aliases stand for is read anew for each alias.
-/

namespace LineScopes.Yaml

open Document (Value Field)

structure Place where
  /-- There is no node in an empty document. -/
  node : Option Node
  /-- How many lists and maps may still be entered. -/
  depth : Nat
  anchors : List (Nat × Option Node)

/-- Reads the node at a place. Aliases may be followed only so often. -/
abbrev Reader := ReaderT Place (StateT Nat (Except Fault))

namespace Reader

/-- The node that an alias stands for. -/
def follow (target : Nat) : Reader Node := do
  match ← getThe Nat with
  | 0 => throw "aliases are followed too often"
  | left + 1 =>
    set left
    match (← read).anchors.lookup target with
    | some (some node) => return node
    | _ => throw "an alias stands within its own node"

/-- Reads what is written at the place or what an alias there stands for. -/
def atTarget (reader : Reader α) : Reader α := do
  match (← read).node with
  | some (.alias target) => do
    let node ← follow target
    withReader (fun place => { place with node := some node }) reader
  | _ => reader

def at_ (node : Node) (reader : Reader α) : Reader α :=
  withReader (fun place => { place with node := some node }) reader

/-- Enters a list or map. -/
def inside (reader : Reader α) : Reader α := do
  match (← read).depth with
  | 0 => throw "a document is nested too deeply"
  | depth + 1 => withReader (fun place => { place with depth }) reader

/-- Whether nothing is written. -/
def isNothing : Option Node → Bool
  | none => true
  | some (.scalar text style _) => text.isEmpty && style = .plain
  | _ => false

/-! ## Scalars -/

def readText (expected : String) : Reader String := atTarget do
  match (← read).node with
  | some (.scalar text ..) => return text
  | _ => throw ("something else stands for " ++ expected)

def boolean? (text : String) : Option Bool :=
  if ["true", "True", "TRUE"].contains text then some true
  else if ["false", "False", "FALSE"].contains text then some false
  else none

def isNull (text : String) : Bool := ["null", "Null", "NULL", "~"].contains text

def boolTag : String := "tag:yaml.org,2002:bool"

def intTag : String := "tag:yaml.org,2002:int"

def nullTag : String := "tag:yaml.org,2002:null"

def readBoolean : Reader Bool := atTarget do
  match (← read).node with
  | some (.scalar text style tag) =>
    if style = .plain ∨ (style = .literal ∧ tag = some boolTag) then
      match boolean? text with
      | some b => return b
      | none => throw "a text is no boolean"
    else throw "a quoted text is no boolean"
  | _ => throw "something else stands for a boolean"

def readOptional (reader : Reader α) : Reader (Option α) := atTarget do
  match (← read).node with
  | none => return none
  | some (.scalar text .plain tag) =>
    if tag = some nullTag then
      if isNull text then return none else throw "a text is not null"
    else if tag.isSome then some <$> reader
    else if text.isEmpty ∨ isNull text then return none
    else some <$> reader
  | some _ => some <$> reader

/-! ## Lists and maps -/

def readList (reader : Reader α) : Reader (List α) := atTarget do
  match (← read).node with
  | some (.list _ items) => inside (items.mapM fun item => at_ item reader)
  | node => if isNothing node then return [] else throw "something else stands for a list"

def readMapping (entries : List (Node × Node) → Reader α) : Reader α := atTarget do
  match (← read).node with
  | some (.map _ written) => inside (entries written)
  | node => if isNothing node then entries [] else throw "something else stands for a map"

def readEntries (reader : Reader α) : Reader (List (String × α)) :=
  readMapping fun written => written.foldlM (fun done (key, value) => do
    let name ← at_ key (readText "a key")
    return Document.put done name (← at_ value reader)) []

def fieldsFrom (fields : List (Field Reader ρ)) (seen : List String) (value : ρ) :
    List (Node × Node) → Reader ρ
  | [] =>
    if fields.any fun field => field.isRequired && !seen.contains field.name then
      throw "a field is missing"
    else return value
  | (key, written) :: rest => do
    let name ← at_ key (readText "a field name")
    match fields.find? fun field => field.name = name with
    | none => fieldsFrom fields seen value rest
    | some field =>
      if seen.contains name then throw "a field is written twice"
      let set ← at_ written field.read
      fieldsFrom fields (name :: seen) (set value) rest

def readRecord (_name : String) (fields : List (Field Reader ρ)) (value : ρ) : Reader ρ :=
  readMapping (fieldsFrom fields [] value)

/-! ## Values of any form -/

/-- A digit in a number of a base up to 16. -/
def digit? (base : Nat) (c : Char) : Option Nat :=
  (Unicode.hexDigit? c).filter (· < base)

def magnitude? (base : Nat) (digits : List Char) : Option Nat :=
  if digits.isEmpty then none
  else (digits.mapM (digit? base)).map (·.foldl (fun n d => base * n + d) 0)

/-- Digits after a zero are no number. -/
def hasLeadingZero (digits : List Char) : Bool :=
  1 < digits.length && digits.head? = some '0' && digits.all Char.isDigit

/-- A number without its sign, in the base that it tells. -/
def unsigned? (chars : List Char) : Option Nat :=
  let told := match chars with
    | '0' :: 'x' :: digits => magnitude? 16 digits
    | '0' :: 'o' :: digits => magnitude? 8 digits
    | '0' :: 'b' :: digits => magnitude? 2 digits
    | _ => none
  told.orElse fun _ => if hasLeadingZero chars then none else magnitude? 10 chars

def integer? (text : String) : Option Int :=
  match text.toList with
  | '-' :: digits => (unsigned? digits).map fun n => -(n : Int)
  | '+' :: digits => (unsigned? digits).map Int.ofNat
  | digits => (unsigned? digits).map Int.ofNat

def plainValue (text : String) : Value :=
  if text.isEmpty ∨ isNull text then .null
  else match boolean? text, integer? text with
    | some b, _ => .boolean b
    | none, some n => .integer n
    | none, none => .text text

def scalarValue (text : String) (style : Style) (tag : Option String) : Reader Value :=
  match tag with
  | none => return if style = .plain then plainValue text else .text text
  | some tag =>
    if tag = boolTag then
      match boolean? text with
      | some b => return .boolean b
      | none => throw "a text is no boolean"
    else if tag = intTag then
      match integer? text with
      | some n => return .integer n
      | none => throw "a text is no integer"
    else if tag = nullTag then
      if isNull text then return .null else throw "a text is not null"
    else if tag.startsWith "!" then throw "a tag chooses no form"
    else return .text text

def readValue : (fuel : Nat) → Reader Value
  | 0 => throw "a document is nested too deeply"
  | fuel + 1 => atTarget do
    match (← read).node with
    | none => return .null
    | some (.scalar text style tag) => scalarValue text style tag
    | some (.list ..) => return .list (← readList (readValue fuel))
    | some _ => return .map (← readEntries (readValue fuel))

def readChoice (_name : String) (pick : Value → Option α) : Reader α := do
  match pick (← readValue ((← read).depth + 1)) with
  | some choice => return choice
  | none => throw "a value has no form that is known here"

end Reader

instance : Document.Format Reader where
  text := Reader.readText
  boolean := Reader.readBoolean
  optional := Reader.readOptional
  list := Reader.readList
  entries := Reader.readEntries
  record := Reader.readRecord
  choose := Reader.readChoice
  tooDeep := throw "a document is nested too deeply"

/-- How many lists and maps may stand inside each other. -/
def maxDepth : Nat := 128

/-- How often aliases may be followed for each token of a document. -/
def aliasesPerToken : Nat := 100

def readDocument (reader : Reader α) (source : String) : Except String α := do
  let tokens ← tokens source
  let (node, feed) ← Feeding.document { tokens }
  let place : Place := { node, depth := maxDepth, anchors := feed.anchors.nodes }
  return (← (reader place).run (aliasesPerToken * tokens.length)).1

end LineScopes.Yaml
