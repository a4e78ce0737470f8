import Lineage.Checkpoint

/-! Histories: the checkpoints from one of them back to its ancestors, first parents only. -/

namespace Lineage

/-- Why a walk along first parents stopped. -/
inductive Ending
  /-- The last checkpoint has no parent. -/
  | root
  /-- There was no hash to ask for, or the answer was empty. -/
  | missing (hash : String)
  | fetchFailed (hash error : String)
  /-- The next checkpoint is one already walked over. -/
  | cycle (hash : String)
  | depthLimit (limit : Nat)
  deriving DecidableEq, Repr

/-- The starting checkpoint comes first. -/
structure History where
  start : String
  checkpoints : List Checkpoint
  ending : Ending
  deriving DecidableEq, Repr

namespace History

def isEmpty (h : History) : Bool := h.checkpoints.isEmpty

def isComplete (h : History) : Bool := h.ending == .root

end History

end Lineage
