import Fulltext.Value.Convert

namespace Fulltext.Filter

/-- What a filter is on. It is meant to be a text, but bytes pass the same checks. -/
inductive Attribute where
  | text (name : String)
  | bytes (content : List UInt8)
  deriving DecidableEq, Repr

instance : Coe String Attribute := ⟨Attribute.text⟩

namespace Attribute

def isBlank : Attribute → Bool
  | text name => Text.allBlank name
  | bytes content => content.all Text.isBlankByte

def value : Attribute → Value
  | text name => .text name
  | bytes content => .foreign (.bytes content)

end Attribute

/-- Bit 0 of `flags` negates the group, bit 1 asks for every value instead of any, bit 2 joins the
group to the ones before it as an alternative. Other bits are kept and mean nothing. -/
structure Group where
  subject : Attribute
  values : List Value
  flags : Int
  deriving Repr

/-- Bit `i` of a number in two's complement. -/
def bit (n : Int) (i : Nat) : Bool := n >>> i % 2 == 1

namespace Group

/-- The attribute as an expression shows it: a text as it is, bytes in their written form. -/
def attr (g : Group) : String := g.subject.value.shown

def exclude (g : Group) : Bool := bit g.flags 0

def everyValue (g : Group) : Bool := bit g.flags 1

def alternative (g : Group) : Bool := bit g.flags 2

end Group

/-- The number of binary digits of a magnitude. -/
def bitLength (n : Nat) : Nat := if n = 0 then 0 else n.log2 + 1

/-- A number that three bits and a sign cannot hold keeps all its bits: if it is negative, it counts
down from the least power of two, but at least eight, that exceeds its magnitude. -/
def keepBits (n : Int) : Int :=
  if -8 ≤ n ∧ n ≤ 7 then n
  else if n < 0 then (max 8 (Nat.pow 2 (bitLength n.natAbs)) : Nat) + n
  else n

/-- Flags from any number. What is negative still counts down from eight. -/
def normalFlags (n : Int) : Int :=
  let kept := keepBits n
  if kept < 0 then 8 + kept else kept

def flagsOf (v : Value) : Except Fault Int := do
  return normalFlags (← (v.orElse (.int 0)).toInt)

def Attribute.checked (a : Attribute) : Except Fault Attribute :=
  if a.isBlank then .error (.filter .blankAttribute) else .ok a

/-- The attribute that a filter is on: anything that can be trimmed, and that is not blank. -/
def attributeOf (v : Value) : Except Fault Attribute :=
  if v.isSet then
    match v with
    | .text name => Attribute.checked (.text name)
    | .foreign (.bytes content) => Attribute.checked (.bytes content)
    | _ => .error (.operand .noSuchMember)
  else .error (.filter .blankAttribute)

/-- A group from its parts; the attribute is checked first, then the values, then the flags. -/
def Group.make (attr values flags : Value) : Except Fault Group := do
  let subject ← attributeOf attr
  let values ← values.items
  if values.isEmpty then throw (.filter (.noValues subject.value.shown))
  let flags ← flagsOf flags
  return ⟨subject, values, flags⟩

/-- A group from its parts; the values are read first and the flags second. -/
def Group.of (attr values flags : Value) : Except Fault Group := do
  let values ← values.items
  let flags ← flagsOf flags
  Group.make attr (.list values) (.int flags)

def Group.same (g h : Group) : Bool :=
  g.subject == h.subject && Value.sameItems g.values h.values && g.flags == h.flags

def sameGroups : List Group → List Group → Bool
  | [], [] => true
  | g :: gs, h :: hs => g.same h && sameGroups gs hs
  | _, _ => false

end Fulltext.Filter
