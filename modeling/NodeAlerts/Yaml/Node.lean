import NodeAlerts.Yaml.Layout
import NodeAlerts.Yaml.Scalar

/-!
# YAML nodes

A `Node` is what a YAML document stands for: a scalar, a list, or a mapping whose keys are scalars
that occur once.

* `Read.node?` reads a node from the tokens of a text;
* `Node.ofText?` reads the node of the only document in a text, if there is one.
-/

namespace NodeAlerts.Yaml

/-- What a YAML document stands for. -/
inductive Node where
  /-- A scalar. -/
  | scalar (s : Scalar)
  /-- A list. -/
  | list (items : List Node)
  /-- A mapping. -/
  | mapping (members : List (Scalar × Node))
  deriving Inhabited

namespace Node

/-- A node that is not written. -/
def null : Node := .scalar .null

/-- The scalar that a node is. -/
def scalar? : Node → Option Scalar
  | .scalar s => some s
  | _ => none

/-- Takes keys and values in turn; something invalid is no key and is passed over. -/
def pairs : List Node → List (Node × Node)
  | [] => []
  | .scalar .invalid :: rest => pairs rest
  | [_] => []
  | k :: v :: rest => (k, v) :: pairs rest

/-- The mapping of keys and values in turn. -/
def ofPairs? (nodes : List Node) : Option Node := do
  let members ← (pairs nodes).mapM fun p => p.1.scalar?.map fun k => (k, p.2)
  if (members.map (·.1)).Nodup then some (.mapping members) else none

end Node

/-! ## Reading -/

/-- A text read up to some token. -/
structure Reading where
  /-- The tokens that are left. -/
  tokens : List Token
  /-- The handles that a directive gave a meaning. -/
  handles : List (String × String) := []
  /-- The numbers of the nodes with names, latest first. -/
  names : List (String × Nat) := []
  /-- The nodes with names; one that is not read to its end is invalid. -/
  named : Array Node := #[]

/-- A reader of tokens. -/
abbrev Read := StateT Reading Option

namespace Read

/-- The next token. -/
def peek : Read (Option Token) := return (← get).tokens.head?

/-- Steps over a token. -/
def drop : Read Unit := modify fun r => { r with tokens := r.tokens.tail }

/-- Steps over a token that has to come next. -/
def expect (t : Token) : Read Unit := do
  if (← peek) = some t then drop else failure

/-- Whether the next token is one of a list. -/
def atAny (ts : List Token) : Read Bool := return (← peek).any ts.contains

/-! ### Names and types -/

/-- The handle of the types of the standard. -/
def standardHandle : String := "tag:yaml.org,2002:"

/-- What the handle of a tag stands for; one between exclamation marks needs a directive. -/
def resolve (handle : String) : Read String := do
  match (← get).handles.lookup handle with
  | some start => return start
  | none =>
    if handle = "!!" then return standardHandle
    else if Property.isClosed handle.toList then failure
    else return handle

/-- Gives a name to the node that follows; gives its number. -/
def register (name : String) : Read Nat := do
  let r ← get
  set { r with
    names := (name, r.named.size) :: r.names
    named := r.named.push (.scalar .invalid) }
  return r.named.size

/-- Notes a node with a number. -/
def complete (number : Option Nat) (node : Node) : Read Node := do
  if let some n := number then modify fun r => { r with named := r.named.setIfInBounds n node }
  return node

/-- The node with a name. -/
def lookup (name : String) : Read Node := do
  let r ← get
  match r.names.lookup name with
  | some n => return r.named[n]?.getD (.scalar .invalid)
  | none => failure

/-- A name and a type. -/
structure Properties where
  /-- The number of the named node. -/
  number : Option Nat := none
  /-- The handle and the suffix of its tag. -/
  tag : Option (String × String) := none

/-- Reads an anchor, if there is one. -/
def anchor : Read (Option Nat) := do
  match ← peek with
  | some (.anchor name) => drop; return some (← register name)
  | _ => return none

/-- Reads a tag, if there is one. -/
def tag : Read (Option (String × String)) := do
  match ← peek with
  | some (.tag handle suffix) => drop; return some (← resolve handle, suffix)
  | _ => return none

/-- Reads a name and a type, in any order. -/
def properties : Read Properties := do
  match ← anchor with
  | some n => return { number := some n, tag := ← tag }
  | none =>
    match ← tag with
    | some t => return { number := ← anchor, tag := some t }
    | none => return {}

/-- Whether there is a name or a type. -/
def Properties.isGiven (p : Properties) : Bool := p.number.isSome || p.tag.isSome

/-- What a scalar stands for. -/
def Properties.scalar (p : Properties) (plain : Bool) (text : String) : Scalar :=
  if !plain then .text text
  else
    match p.tag with
    | none => .ofPlain text
    | some (handle, suffix) =>
      if handle = standardHandle then .ofTyped suffix text else .text text

/-- A node that is only a name or a type. -/
def missing (p : Properties) : Read Node :=
  if p.isGiven then complete p.number (.scalar (p.scalar true "")) else failure

/-! ### Nodes -/

mutual

/-- Reads a node, in at most so many steps.  Lists and mappings by indentation need a `block`; only
`dashes` under a key may stand at its column. -/
def node : Nat → (block dashes : Bool) → Read Node
  | 0, _, _ => failure
  | steps + 1, block, dashes => do
    if let some (.alias name) ← peek then
      drop
      lookup name
    else
      let p ← properties
      content steps block dashes p

/-- Reads a node behind its name and type. -/
def content : Nat → (block dashes : Bool) → Properties → Read Node
  | 0, _, _, _ => failure
  | steps + 1, block, dashes, p => do
    match ← peek with
    | some (.scalar plain text) => drop; complete p.number (.scalar (p.scalar plain text))
    | some .flowSequenceStart =>
      drop
      complete p.number (.list (← flowItems steps true))
    | some .flowMappingStart =>
      drop
      complete p.number (← Node.ofPairs? (← flowMembers steps true))
    | some .sequenceStart =>
      if block then
        drop
        complete p.number (.list (← blockItems steps))
      else missing p
    | some .mappingStart =>
      if block then
        drop
        complete p.number (← Node.ofPairs? (← blockMembers steps))
      else missing p
    | some .entry =>
      if dashes then complete p.number (.list (← dashItems steps)) else missing p
    | _ => missing p

/-- Reads a node by indentation, or none before some tokens. -/
def blockNode : Nat → Bool → List Token → Read Node
  | 0, _, _ => failure
  | steps + 1, dashes, ends => do
    if ← atAny ends then return .null else node steps true dashes

/-- Reads a node in a flow collection, or none before some tokens. -/
def flowNode : Nat → List Token → Read Node
  | 0, _ => failure
  | steps + 1, ends => do
    if ← atAny ends then return .null else node steps false false

/-- Reads the items of a list by indentation. -/
def blockItems : Nat → Read (List Node)
  | 0 => failure
  | steps + 1 => do
    match ← peek with
    | some .blockEnd => drop; return []
    | some .entry =>
      drop
      let item ← blockNode steps false [.entry, .blockEnd]
      return item :: (← blockItems steps)
    | _ => failure

/-- Reads the items of a list at the column of its key. -/
def dashItems : Nat → Read (List Node)
  | 0 => failure
  | steps + 1 => do
    match ← peek with
    | some .entry =>
      drop
      let item ← blockNode steps false [.entry, .key, .value, .blockEnd]
      return item :: (← dashItems steps)
    | _ => return []

/-- Reads the keys and values of a mapping by indentation, in turn. -/
def blockMembers : Nat → Read (List Node)
  | 0 => failure
  | steps + 1 => do
    match ← peek with
    | some .blockEnd => drop; return []
    | some .key =>
      drop
      let k ← blockNode steps true [.key, .value, .blockEnd]
      let v ← blockValue steps
      return k :: v :: (← blockMembers steps)
    | some .value =>
      let v ← blockValue steps
      return .null :: v :: (← blockMembers steps)
    | _ => failure

/-- Reads a value of a mapping by indentation, if there is one. -/
def blockValue : Nat → Read Node
  | 0 => failure
  | steps + 1 => do
    if (← peek) = some .value then
      drop
      blockNode steps true [.key, .value, .blockEnd]
    else return .null

/-- Reads the keys and values of a flow mapping, in turn. -/
def flowMembers : Nat → Bool → Read (List Node)
  | 0, _ => failure
  | steps + 1, first => do
    if (← peek) = some .flowMappingEnd then
      drop
      return []
    if !first then expect .flowEntry
    match ← peek with
    | some .flowMappingEnd => drop; return []
    | some .key =>
      drop
      let k ← flowNode steps [.value, .flowEntry, .flowMappingEnd]
      let v ← flowValue steps [.flowEntry, .flowMappingEnd]
      return k :: v :: (← flowMembers steps false)
    | some .value =>
      let v ← flowValue steps [.flowEntry, .flowMappingEnd]
      return .null :: v :: (← flowMembers steps false)
    | _ =>
      let k ← node steps false false
      return k :: .null :: (← flowMembers steps false)

/-- Reads a value in a flow collection, if there is one. -/
def flowValue : Nat → List Token → Read Node
  | 0, _ => failure
  | steps + 1, ends => do
    if (← peek) = some .value then
      drop
      flowNode steps ends
    else return .null

/-- Reads the items of a flow list. -/
def flowItems : Nat → Bool → Read (List Node)
  | 0, _ => failure
  | steps + 1, first => do
    if (← peek) = some .flowSequenceEnd then
      drop
      return []
    if !first then expect .flowEntry
    match ← peek with
    | some .flowSequenceEnd => drop; return []
    | some .key =>
      drop
      let pair ← flowPair steps
      return pair :: (← flowItems steps false)
    | _ =>
      let item ← node steps false false
      return item :: (← flowItems steps false)

/-- Reads a pair in a flow list behind the start of its key.  Before the end of the pair there is no
key, and the token of the end is stepped over. -/
def flowPair : Nat → Read Node
  | 0 => failure
  | steps + 1 => do
    let k ←
      if ← atAny [.value, .flowEntry, .flowSequenceEnd] then do drop; pure Node.null
      else node steps false false
    let v ← flowValue steps [.flowEntry, .flowSequenceEnd]
    Node.ofPairs? [k, v]

end

/-! ### Documents -/

/-- Steps over the marks behind documents. -/
def skipEnds : Read Unit :=
  modify fun r => { r with tokens := r.tokens.dropWhile (· = .documentEnd) }

/-- Reads directives; the last one counts, and there is at most one for the version. -/
def directives : Nat → Bool → Read Unit
  | 0, _ => failure
  | steps + 1, versioned => do
    match ← peek with
    | some .versionDirective =>
      if versioned then failure
      drop
      modify fun r => { r with handles := [] }
      directives steps true
    | some (.tagDirective handle start) =>
      drop
      modify fun r => { r with handles := [(handle, start)] }
      directives steps versioned
    | _ => return ()

/-- Reads a document whose start is marked. -/
def marked (steps : Nat) : Read Node := do
  directives steps false
  expect .documentStart
  match ← peek with
  | none => return .null
  | some .documentStart => return .null
  | some .documentEnd => return .null
  | some .versionDirective => return .null
  | some (.tagDirective ..) => return .null
  | some _ => node steps true false

/-- Reads a document. -/
def document (steps : Nat) : Read Node := do
  match ← peek with
  | some .documentStart => marked steps
  | some .versionDirective => marked steps
  | some (.tagDirective ..) => marked steps
  | _ => node steps true false

/-- Reads the only document of a text, if there is one. -/
def onlyDocument (steps : Nat) : Read (Option Node) := do
  skipEnds
  if (← peek).isNone then return none
  let root ← document steps
  skipEnds
  if (← peek).isNone then return some root else failure

end Read

/-- The node of the only document in a text, if there is one; none at all if the text is not well
formed. -/
def Node.ofText? (text : String) : Option (Option Node) := do
  let tokens ← Token.ofText? text
  (Read.onlyDocument (4 * tokens.length + 4)).run' { tokens }

end NodeAlerts.Yaml
