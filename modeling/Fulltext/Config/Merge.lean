import Fulltext.Value.Basic

namespace Fulltext

mutual

/-- What stands under a name in the merged mapping. -/
def Value.over : Value → Option Value → Value
  | .map upper, some (.map lower) => .map (mergeOver lower upper)
  | v, _ => v

/-- The lower layer with every entry of the upper one laid over it. -/
def mergeOver (lower : Entries) : List (Value × Value) → Entries
  | [] => lower
  | (k, v) :: upper => mergeOver (lower.put k (v.over (k.key?.bind lower.get?))) upper

end

/-- Two layers, the second over the first. -/
def Entries.merge (lower upper : Entries) : Entries := mergeOver lower upper

end Fulltext
