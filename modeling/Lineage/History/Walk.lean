import Lineage.History
import Lineage.Transfer.Error

/-! Walking a history. Each step needs the answer to the one before, so the requests come one after
another; a walk never fails as a whole, it ends with a reason. -/

namespace Lineage

/-- Somewhere checkpoints are asked for by hash. The answer may be empty. -/
abbrev Source (m : Type → Type) := String → m (Except RequestError (Option Checkpoint))

namespace History

variable {m : Type → Type} [Monad m]

/-- On from `next`, over at most `left` more checkpoints. The hashes walked over are in `seen`. -/
def walkFrom (fetch : Source m) (limit : Nat) :
    (left : Nat) → (seen : List String) → (next : String) → m (List Checkpoint × Ending)
  | left, seen, next =>
    if next.isEmpty then pure ([], .missing next)
    else match left with
      | 0 => pure ([], .depthLimit limit)
      | left + 1 =>
        if seen.contains next then pure ([], .cycle next)
        else fetch next >>= fun answer =>
          match answer with
          | .ok (some checkpoint) =>
            match checkpoint.firstParent with
            | none => pure ([checkpoint], .root)
            | some parent => do
              let (older, ending) ← walkFrom fetch limit left (next :: seen) parent
              pure (checkpoint :: older, ending)
          | .ok none => pure ([], .missing next)
          | .error error => pure ([], .fetchFailed next error.message)

/-- The most checkpoints in one walk, unless told otherwise. -/
def defaultDepth : Nat := 1000

/-- A bound of zero counts as one. -/
def walk (fetch : Source m) (maxDepth : Nat) (start : String) : m History := do
  let limit := max 1 maxDepth
  let (checkpoints, ending) ← walkFrom fetch limit limit [] start
  pure ⟨start, checkpoints, ending⟩

end History

end Lineage
