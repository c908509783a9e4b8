import Fulltext.Yaml.Node
import Fulltext.Yaml.Lexer

namespace Fulltext.Yaml

/-- Tokens to come, and what comes instead of the next one if there is none: the end of the text or
a fault. -/
structure Reader where
  tokens : List Token
  fault : Option DocumentFault := none
  handles : List (String × String) := []
  anchors : List (String × NodeId) := []
  nodes : Nodes := #[]
  depth : Nat := 0

abbrev Read := StateT Reader (Except DocumentFault)

namespace Read

/-- The token that comes next; none at the end of the text. -/
def peek : Read (Option Token) := do
  let r ← get
  match r.tokens, r.fault with
  | t :: _, _ => return some t
  | [], none => return none
  | [], some f => throw f

def skip : Read Unit := modify fun r => { r with tokens := r.tokens.tail }

/-- Takes a token off if it comes next. -/
def accept (t : Token) : Read Bool := do
  if (← peek) = some t then
    skip
    return true
  else return false

def expect (t : Token) : Read Unit := do
  if !(← accept t) then throw .malformed

/-- Whether one of some tokens comes next. -/
def at_ (ts : List Token) : Read Bool := return (← peek).any ts.contains

def anchored (name : String) : Read NodeId := do
  match (← get).anchors.lookup name with
  | some n => return n
  | none => throw .malformed

/-- A new node. The name of its anchor must not have been used. -/
def start (anchor? : Option String) (tag : Tag) (body : Body) : Read NodeId := do
  if let some name := anchor? then
    if ((← get).anchors.lookup name).isSome then throw .malformed
  modifyGet fun r =>
    let n := r.nodes.size
    let anchors := anchor?.elim r.anchors fun name => (name, n) :: r.anchors
    (n, { r with nodes := r.nodes.push ⟨tag, body⟩, anchors := anchors })

def missing : Read NodeId := start none Node.empty.tag Node.empty.body

/-- Collections within each other, at most. -/
def depthLimit : Nat := 488

/-- A collection whose parts are read after it has started, so that they may refer to it. -/
def collection (anchor? : Option String) (tag : Tag) (body : Read Body) : Read NodeId := do
  let n ← start anchor? tag (.text "")
  if depthLimit ≤ (← get).depth then throw .tooDeep
  modify fun r => { r with depth := r.depth + 1 }
  let b ← body
  modify fun r => { r with depth := r.depth - 1, nodes := r.nodes.setBody n b }
  return n

def anchor? : Read (Option String) := do
  match ← peek with
  | some (.anchor name) =>
    skip
    return some name
  | _ => return none

/-- A tag as it is written: its handle, if any, and what follows. -/
def tag? : Read (Option (Option String × String)) := do
  match ← peek with
  | some (.tag handle? suffix) =>
    skip
    return some (handle?, suffix)
  | _ => return none

/-- The name of a tag with its handle replaced. -/
def tagName (tag : Option String × String) : Read String := do
  match tag with
  | (none, suffix) => return suffix
  | (some h, suffix) =>
    match (← get).handles.lookup h with
    | some meaning => return meaning ++ suffix
    | none => throw .malformed

/-- Anchor and tag of a node, in either order. -/
def properties : Read (Option String × Option String) := do
  match ← anchor? with
  | some a => return (some a, ← (← tag?).mapM tagName)
  | none =>
    let t ← tag?
    let a ← anchor?
    return (a, ← t.mapM tagName)

/-- A tag that says nothing leaves the kind to the content, also of a quoted text. -/
def scalarTag (name? : Option String) (text : String) (plain : Bool) : Tag :=
  match name? with
  | none => if plain then .ofPlain text else .str
  | some "!" => .ofPlain text
  | some name => .ofName name

def collectionTag (name? : Option String) (default : Tag) : Tag :=
  match name? with
  | none => default
  | some "!" => default
  | some name => .ofName name

/-- Where a node may stand: in a flow collection, in a block, or as an entry of a block mapping,
whose sequences need no further indentation. -/
inductive Place where
  | flow | block | entry
  deriving DecidableEq, Repr

/-- A node of properties alone. -/
def noBody (anchor? name? : Option String) : Read NodeId :=
  if anchor?.isSome || name?.isSome then start anchor? (scalarTag name? "" true) (.text "")
  else throw .malformed

/-- A comma, except before the first entry. -/
def separator (first : Bool) : Read Unit := if first then return else expect .flowEntry

mutual

def node (place : Place) : Nat → Read NodeId
  | 0 => throw .malformed
  | fuel + 1 => do
    if let some (.reference name) ← peek then
      skip
      return ← anchored name
    let (anchor?, name?) ← properties
    body place anchor? name? fuel

/-- A node after its properties. If there are any, it may be empty. -/
def body (place : Place) (anchor? name? : Option String) : Nat → Read NodeId
  | 0 => throw .malformed
  | fuel + 1 => do
    let sequence := fun (items : Read (List NodeId)) =>
      collection anchor? (collectionTag name? .seq) (return .items (← items))
    let mapping := fun (pairs : Read (List (NodeId × NodeId))) =>
      collection anchor? (collectionTag name? .map) (return .pairs (← pairs))
    match ← peek with
    | some (.scalar text plain) =>
      skip
      start anchor? (scalarTag name? text plain) (.text text)
    | some .flowSequenceStart =>
      skip
      sequence (flowItems true fuel)
    | some .flowMappingStart =>
      skip
      mapping (flowPairs true fuel)
    | some t =>
      if t = .blockEntry && place = .entry then sequence (entryItems fuel)
      else if t = .blockSequenceStart && place != .flow then
        skip
        sequence (blockItems fuel)
      else if t = .blockMappingStart && place != .flow then
        skip
        mapping (blockPairs fuel)
      else noBody anchor? name?
    | none => noBody anchor? name?

def blockItems : Nat → Read (List NodeId)
  | 0 => throw .malformed
  | fuel + 1 => do
    if ← accept .blockEntry then
      let n ← optionalNode .block [.blockEntry, .blockEnd] fuel
      return n :: (← blockItems fuel)
    else
      expect .blockEnd
      return []

/-- Items of a sequence that has no indentation of its own. -/
def entryItems : Nat → Read (List NodeId)
  | 0 => throw .malformed
  | fuel + 1 => do
    if ← accept .blockEntry then
      let n ← optionalNode .block [.blockEntry, .key, .value, .blockEnd] fuel
      return n :: (← entryItems fuel)
    else return []

def blockPairs : Nat → Read (List (NodeId × NodeId))
  | 0 => throw .malformed
  | fuel + 1 => do
    if ← accept .key then
      let k ← optionalNode .entry [.key, .value, .blockEnd] fuel
      let v ← valueOf .entry [.key, .value, .blockEnd] fuel
      return (k, v) :: (← blockPairs fuel)
    else
      expect .blockEnd
      return []

/-- A node that is missing where one of `stops` comes next. -/
def optionalNode (place : Place) (stops : List Token) : Nat → Read NodeId
  | 0 => throw .malformed
  | fuel + 1 => do
    if ← at_ stops then missing else node place fuel

/-- What follows the key of a pair. -/
def valueOf (place : Place) (stops : List Token) : Nat → Read NodeId
  | 0 => throw .malformed
  | fuel + 1 => do
    if ← accept .value then optionalNode place stops fuel else missing

/-- Items of a flow sequence. A pair among them is a mapping of its own. -/
def flowItems (first : Bool) : Nat → Read (List NodeId)
  | 0 => throw .malformed
  | fuel + 1 => do
    if ← accept .flowSequenceEnd then return []
    separator first
    if ← accept .flowSequenceEnd then return []
    let n ←
      if ← accept .key then
        collection none .map do
          let k ← optionalNode .flow [.value, .flowEntry, .flowSequenceEnd] fuel
          let v ← valueOf .flow [.flowEntry, .flowSequenceEnd] fuel
          return .pairs [(k, v)]
      else node .flow fuel
    return n :: (← flowItems false fuel)

def flowPairs (first : Bool) : Nat → Read (List (NodeId × NodeId))
  | 0 => throw .malformed
  | fuel + 1 => do
    if ← accept .flowMappingEnd then return []
    separator first
    if ← accept .flowMappingEnd then return []
    let p ←
      if ← accept .key then do
        let k ← optionalNode .flow [.value, .flowEntry, .flowMappingEnd] fuel
        let v ← valueOf .flow [.flowEntry, .flowMappingEnd] fuel
        pure (k, v)
      else do
        let k ← node .flow fuel
        pure (k, ← missing)
    return p :: (← flowPairs false fuel)

end

/-- Directives before a document: one version at most, and one meaning for a handle. -/
def directives : Bool → Nat → Read Unit
  | _, 0 => throw .malformed
  | versioned, fuel + 1 => do
    match ← peek with
    | some (.version major) =>
      if versioned || major != 1 then throw .malformed
      skip
      directives true fuel
    | some (.tagHandle handle meaning) =>
      if ((← get).handles.lookup handle).isSome then throw .malformed
      skip
      modify fun r => { r with handles := (handle, meaning) :: r.handles }
      directives versioned fuel
    | some .otherDirective =>
      skip
      directives versioned fuel
    | _ => return

/-- Handles that have a meaning without a directive. -/
def ownHandles : List (String × String) := [("!", "!"), ("!!", Tag.home)]

def isDirective : Token → Bool
  | .version _ => true
  | .tagHandle _ _ => true
  | .otherDirective => true
  | _ => false

/-- Tokens that stand outside the content of a document. -/
def leavesDocument (t : Token) : Bool :=
  isDirective t || t = .documentStart || t = .documentEnd

/-- Directives and the marker after them, where a document starts that has no other start. -/
def heading (fuel : Nat) : Read Unit := do
  directives false fuel
  modify fun r => { r with handles := r.handles ++ ownHandles }
  expect .documentStart

def skipEnds : Nat → Read Unit
  | 0 => return
  | fuel + 1 => do
    if ← accept .documentEnd then skipEnds fuel

/-- The root of the one document of a stream, unless the stream is empty. -/
def document (fuel : Nat) : Read (Option NodeId) := do
  let some t ← peek | return none
  let n ←
    if isDirective t || t = .documentStart then do
      heading fuel
      if (← peek).all leavesDocument then missing else node .block fuel
    else do
      modify fun r => { r with handles := ownHandles }
      node .block fuel
  skipEnds fuel
  if (← peek).isSome then
    modify fun r => { r with handles := [] }
    heading fuel
    throw .malformed
  return some n

end Read

/-- The nodes of a stream; none if there is no document. -/
def Outline.ofTokens? (s : TokenStream) : Except DocumentFault (Option Outline) := do
  let fuel := 4 * s.tokens.length + 4
  let (n?, r) ← (Read.document fuel).run { tokens := s.tokens, fault := s.fault }
  return n?.map fun n => ⟨r.nodes, n⟩

end Fulltext.Yaml
