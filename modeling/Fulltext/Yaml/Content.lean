import Fulltext.Yaml.Document
import Fulltext.Yaml.Graph
import Fulltext.Yaml.Merge

namespace Fulltext.Yaml

def truthOf (s : String) : Except DocumentFault Bool :=
  match Tag.truths.lookup (String.ofList (s.toList.map Reading.lowerChar)) with
  | some b => .ok b
  | none => .error .unsuitableTruth

def base64Digit? (c : Char) : Option Nat :=
  if c.isUpper then some (c.toNat - 65)
  else if c.isLower then some (c.toNat - 71)
  else if c.isDigit then some (c.toNat + 4)
  else if c == '+' then some 62
  else if c == '/' then some 63
  else none

/-- The digits of bytes in base 64: in fours, the last of them filled up with equals signs. Other
characters do not count, and neither does anything after the filling. -/
def base64Digits? (place fill : Nat) : List Char → Option (List Nat)
  | [] => if place == 0 then some [] else none
  | c :: cs =>
    if c == '=' then
      if place < 2 then base64Digits? place fill cs
      else if place + fill + 1 ≥ 4 then some []
      else base64Digits? place (fill + 1) cs
    else
      match base64Digit? c with
      | some d => (base64Digits? ((place + 1) % 4) 0 cs).map (d :: ·)
      | none => base64Digits? place fill cs

/-- Every four digits are three bytes; two or three digits at the end are one byte less. -/
def bytesOfDigits : List Nat → List UInt8
  | a :: b :: c :: d :: ds =>
    let n := ((a * 64 + b) * 64 + c) * 64 + d
    (n / 65536).toUInt8 :: (n / 256).toUInt8 :: n.toUInt8 :: bytesOfDigits ds
  | [a, b, c] =>
    let n := (a * 64 + b) * 64 + c
    [(n / 1024).toUInt8, (n / 4).toUInt8]
  | [a, b] => [((a * 64 + b) / 16).toUInt8]
  | _ => []

def bytesOf (s : String) : Except DocumentFault Value :=
  match base64Digits? 0 0 s.toList with
  | some ds =>
    if s.toList.all (fun c => c.toNat < 128) then .ok (.foreign (.bytes (bytesOfDigits ds)))
    else .error .malformed
  | none => .error .malformed

def timeOf (s : String) : Except DocumentFault Value :=
  match Timestamp.read? (Tag.withoutLineEnd s) with
  | some t => if t.isValid then .ok (.foreign (.time s)) else .error .unsuitableNumber
  | none => .error .unsuitableTime

/-- The value of a text under its tag. A merge or a default key is none, and neither is a text of a
kind that has parts. -/
def scalarValue (serial : Nat) (tag : Tag) (s : String) : Except DocumentFault Value :=
  match tag with
  | .null => .ok .null
  | .bool => (truthOf s).map Value.bool
  | .int => (integerOf s).map Value.int
  | .float => (floatOf serial s).map Value.float
  | .timestamp => timeOf s
  | .binary => bytesOf s
  | .str => .ok (.text s)
  | _ => .error .malformed

/-- Nodes with the values that are made of them. A container is made of the node of its number in
`sources`. -/
structure Build where
  nodes : Nodes
  made : Array (Option Part)
  sources : Array NodeId := #[]
  containers : Array Container := #[]
  firstSerial : Nat

abbrev Make := StateT Build (Except DocumentFault)

namespace Make

def node (n : NodeId) : Make Node := return (← get).nodes.node n

/-- The text of a node. A mapping has the text of its default. -/
def textOf (n : NodeId) : Nat → Make String
  | 0 => throw .tooDeep
  | fuel + 1 => do
    let ns := (← get).nodes
    match (ns.node n).body with
    | .text s => return s
    | .items _ => throw .malformed
    | .pairs ps =>
      match ps.find? fun p => ns.tag p.1 = .value with
      | some p => textOf p.2 fuel
      | none => throw .malformed

/-- The value of a node that has no parts. A time is read from a text only. -/
def scalar (n : NodeId) (x : Node) : Make Value := do
  if x.tag = .merge || x.tag = .value || x.tag = .other then throw .malformed
  let b ← get
  let s ← textOf n (b.nodes.size + 1)
  match x.tag, x.body with
  | .timestamp, .pairs _ => throw .timeNotText
  | _, _ => liftM (scalarValue (b.firstSerial + n) x.tag s)

/-- A node becomes one part, however often it is referred to. -/
def part (n : NodeId) : Make Part := do
  if let some (some p) := (← get).made[n]? then return p
  let x ← node n
  let p ←
    if x.tag.isCollection then
      modifyGet fun b =>
        (Part.container b.sources.size,
          { b with sources := b.sources.push n, containers := b.containers.push (.items []) })
    else pure (Part.scalar (← scalar n x))
  modify fun b => { b with made := b.made.setIfInBounds n (some p) }
  return p

/-- A known name keeps its place and its first spelling and takes the new part. -/
def put : List (Value × Part) → Value → Part → List (Value × Part)
  | [], k, p => [(k, p)]
  | (k', p') :: es, k, p => if k'.key? = k.key? then (k', p) :: es else (k', p') :: put es k p

/-- The entries of a mapping. A collection is no name. -/
def entries (es : List (Value × Part)) : List (NodeId × NodeId) → Make (List (Value × Part))
  | [] => return es
  | (k, v) :: ps => do
    match ← part k with
    | .container _ => throw .malformed
    | .scalar name => entries (put es name (← part v)) ps

/-- The entries of a mapping after its merges. -/
def mergedEntries (n : NodeId) : Make (List (Value × Part)) := do
  let b ← get
  match (b.nodes.node n).body with
  | .pairs _ =>
    let k := b.nodes.partCount
    let (_, ns) ← liftM ((merge n ((k + 1) * (k + 4))).run b.nodes)
    set { b with nodes := ns }
    entries [] (ns.pairs n)
  | _ => throw .malformed

/-- The single pair of a mapping. -/
def onlyPair (n : NodeId) : Make (Part × Part) := do
  match (← node n).body with
  | .pairs [(k, v)] => return (← part k, ← part v)
  | _ => throw .malformed

/-- The container that a collection is. -/
def container (n : NodeId) : Make Container := do
  let x ← node n
  match x.tag, x.body with
  | .seq, .items ns => return .items (← ns.mapM part)
  | .omap, .items ns => return .pairs (← ns.mapM onlyPair)
  | .pairs, .items ns => return .pairs (← ns.mapM onlyPair)
  | .map, _ => return .map (← mergedEntries n)
  | .set, _ => return .set ((← mergedEntries n).map (·.1))
  | _, _ => throw .malformed

/-- Fills containers from one on, also those that come up on the way. -/
def fill (i : Nat) : Nat → Make Unit
  | 0 => return
  | fuel + 1 => do
    match (← get).sources[i]? with
    | none => return
    | some n =>
      let c ← container n
      modify fun b => { b with containers := b.containers.setIfInBounds i c }
      fill (i + 1) fuel

end Make

/-- The values of a document; what is no number gets serial numbers from `first` on. -/
def Outline.graph (o : Outline) (first : Nat) : Except DocumentFault Graph := do
  let make : Make Part := do
    let p ← Make.part o.root
    Make.fill 0 o.nodes.size
    return p
  let (p, b) ← make.run
    { nodes := o.nodes, made := o.nodes.map fun _ => none, firstSerial := first }
  return ⟨b.containers, p, first + o.nodes.size⟩

/-- Characters that a text may hold. -/
def isTextChar (c : Char) : Bool :=
  let n := c.toNat
  n == 9 || n == 10 || n == 13 || (0x20 ≤ n && n ≤ 0x7E) || n == 0x85 ||
    (0xA0 ≤ n && n ≤ 0xFFFD) || 0x10000 ≤ n

/-- The values that a text holds; only a null if it holds no document. -/
def read (first : Nat) (text : String) : Except DocumentFault Graph := do
  if !text.toList.all isTextChar then throw .malformed
  match ← Outline.ofTokens? (Token.scan text) with
  | none => return ⟨#[], .scalar .null, first⟩
  | some o => o.graph first

end Fulltext.Yaml
