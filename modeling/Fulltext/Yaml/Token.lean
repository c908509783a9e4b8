import Fulltext.Fault

namespace Fulltext.Yaml

/-- A `key` token stands before the key of a pair, also where the text has no indicator for it. -/
inductive Token where
  | version (major : Nat)
  | tagHandle (handle meaning : String)
  | otherDirective
  | documentStart
  | documentEnd
  | blockSequenceStart
  | blockMappingStart
  | blockEnd
  | flowSequenceStart
  | flowSequenceEnd
  | flowMappingStart
  | flowMappingEnd
  | blockEntry
  | flowEntry
  | key
  | value
  | reference (name : String)
  | anchor (name : String)
  | tag (handle? : Option String) (suffix : String)
  | scalar (text : String) (plain : Bool)
  deriving DecidableEq, Repr

/-- The tokens of a text, to its end or to where the text is at fault. -/
structure TokenStream where
  tokens : List Token
  fault : Option DocumentFault
  deriving DecidableEq, Repr

end Fulltext.Yaml
