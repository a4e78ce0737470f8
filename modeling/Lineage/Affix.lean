import Lineage.Dict

/-! Affixes: the events that a checkpoint appended, by partition. -/

namespace Lineage

structure Affix where
  hash : String
  /-- Hashes of events. -/
  partitions : Dict (List String)
  deriving DecidableEq, Repr

def Affix.eventCount (a : Affix) : Nat :=
  a.partitions.values.flatten.length

end Lineage
