import GpuShare.Yaml.Token

/-!
The nodes of a YAML document: scalars, sequences and mappings, with every alias replaced by the node of
its anchor. A text is one document; an empty one is an empty plain scalar.
-/

set_option autoImplicit false

namespace GpuShare.Yaml

/-- A node. Mappings keep their pairs in order, with repetitions. -/
inductive Node where
  -- Text, and whether it stands without quotes.
  | scalar (text : List Char) (plain : Bool)
  | sequence (items : List Node)
  | mapping (pairs : List (Node × Node))

instance : Inhabited Node := ⟨.scalar [] true⟩

def Node.blank : Node := .scalar [] true

structure Reading where
  tokens : List Token
  anchors : List (List Char × Node) := []
  handles : List (List Char) := [[], ['!'], ['!', '!']]

abbrev Reader := StateT Reading Option

namespace Reader

def peek? : Reader (Option Token) := return (← get).tokens.head?

def skip : Reader Unit := modify fun reading => { reading with tokens := reading.tokens.tail }

def expect (token : Token) : Reader Unit := do
  if (← peek?) = some token then skip else failure

def skipIf (token : Token) : Reader Bool := do
  if (← peek?) = some token then
    skip
    return true
  else return false

structure Properties where
  anchor : Option (List Char) := none
  tagged : Bool := false

/-- Reads the properties in front of a node: an anchor and a tag in either order. -/
def properties : Nat → Properties → Reader Properties
  | 0, found => pure found
  | fuel + 1, found => do
    match ← peek? with
    | some (.anchor name) =>
      if found.anchor.isSome then return found
      else
        skip
        properties fuel { found with anchor := some name }
    | some (.tag handle) =>
      if found.tagged then return found
      else if (← get).handles.contains handle then
        skip
        properties fuel { found with tagged := true }
      else failure
    | _ => return found

def remember (properties : Properties) (node : Node) : Reader Node := do
  if let some name := properties.anchor then
    modify fun reading => { reading with anchors := (name, node) :: reading.anchors }
  return node

def anchored (name : List Char) : Reader Node := do
  match (← get).anchors.find? (·.1 = name) with
  | some (_, node) => return node
  | none => failure

mutual

/-- Reads a node. `inBlock` allows block collections, `indentless` a list without indentation. -/
def node (inBlock indentless : Bool) : Nat → Reader Node
  | 0 => failure
  | fuel + 1 => do
    if let some (.alias name) ← peek? then
      skip
      return ← anchored name
    let found ← properties 2 {}
    match ← peek? with
    | some (.scalar text plain) =>
      skip
      remember found (.scalar text plain)
    | some .flowSequenceStart =>
      skip
      remember found (.sequence (← flowItems true fuel))
    | some .flowMappingStart =>
      skip
      remember found (.mapping (← flowPairs true fuel))
    | some .blockEntry =>
      if indentless then remember found (.sequence (← indentlessItems fuel))
      else if found.anchor.isSome || found.tagged then remember found .blank
      else failure
    | some .blockSequenceStart =>
      if inBlock then
        skip
        remember found (.sequence (← blockItems fuel))
      else if found.anchor.isSome || found.tagged then remember found .blank
      else failure
    | some .blockMappingStart =>
      if inBlock then
        skip
        remember found (.mapping (← blockPairs fuel))
      else if found.anchor.isSome || found.tagged then remember found .blank
      else failure
    | _ =>
      if found.anchor.isSome || found.tagged then remember found .blank
      else failure

def nodeUnless (stops : List Token) (inBlock indentless : Bool) : Nat → Reader Node
  | 0 => failure
  | fuel + 1 => do
    match ← peek? with
    | none => if inBlock then return .blank else failure
    | some token =>
      if stops.contains token then return .blank else node inBlock indentless fuel

def blockItems : Nat → Reader (List Node)
  | 0 => failure
  | fuel + 1 => do
    if ← skipIf .blockEntry then
      let item ← nodeUnless [.blockEntry, .blockEnd] true false fuel
      return item :: (← blockItems fuel)
    else
      expect .blockEnd
      return []

def indentlessItems : Nat → Reader (List Node)
  | 0 => failure
  | fuel + 1 => do
    if ← skipIf .blockEntry then
      let item ← nodeUnless [.blockEntry, .key, .value, .blockEnd] true false fuel
      return item :: (← indentlessItems fuel)
    else return []

def blockPairs : Nat → Reader (List (Node × Node))
  | 0 => failure
  | fuel + 1 => do
    if ← skipIf .key then
      let key ← nodeUnless [.key, .value, .blockEnd] true true fuel
      let value ←
        if ← skipIf .value then nodeUnless [.key, .value, .blockEnd] true true fuel
        else pure .blank
      return (key, value) :: (← blockPairs fuel)
    else
      expect .blockEnd
      return []

/-- Reads the items of a list in brackets. A pair may stand for a mapping of its own. -/
def flowItems (first : Bool) : Nat → Reader (List Node)
  | 0 => failure
  | fuel + 1 => do
    if ← skipIf .flowSequenceEnd then return []
    else
      if !first then expect .flowEntry
      if ← skipIf .flowSequenceEnd then return []
      else
        let item ←
          if ← skipIf .key then do
            let key ← nodeUnless [.value, .flowEntry, .flowSequenceEnd] false false fuel
            let value ←
              if ← skipIf .value then
                nodeUnless [.flowEntry, .flowSequenceEnd] false false fuel
              else pure .blank
            pure (.mapping [(key, value)])
          else node false false fuel
        return item :: (← flowItems false fuel)

def flowPairs (first : Bool) : Nat → Reader (List (Node × Node))
  | 0 => failure
  | fuel + 1 => do
    if ← skipIf .flowMappingEnd then return []
    else
      if !first then expect .flowEntry
      if ← skipIf .flowMappingEnd then return []
      else if ← skipIf .key then
        let key ← nodeUnless [.value, .flowEntry, .flowMappingEnd] false false fuel
        let value ←
          if ← skipIf .value then
            nodeUnless [.flowEntry, .flowMappingEnd] false false fuel
          else pure .blank
        return (key, value) :: (← flowPairs false fuel)
      else
        let key ← node false false fuel
        return (key, .blank) :: (← flowPairs false fuel)

end

def directives : Nat → Bool → Reader Bool
  | 0, found => pure found
  | fuel + 1, found => do
    match ← peek? with
    | some (.directive handle) =>
      modify fun reading => { reading with
        tokens := reading.tokens.tail, handles := handle :: reading.handles }
      directives fuel true
    | _ => return found

def document : Reader Node := do
  let fuel := 3 * (← get).tokens.length + 3
  if (← peek?).isNone then return .blank
  else
    let opened ←
      if ← directives fuel false then do
        expect .documentStart
        pure true
      else skipIf .documentStart
    let root ←
      if opened then nodeUnless [.documentStart, .documentEnd] true false fuel
      else node true false fuel
    for _ in (← get).tokens do
      let _ ← skipIf .documentEnd
    if (← get).tokens.isEmpty then return root else failure

end Reader

def Node.read? (text : List Char) : Option Node := do
  let tokens ← Token.scan? text
  (Reader.document.run { tokens := tokens }).map (·.1)

end GpuShare.Yaml
