import Lineage.Transfer.Exchange

/-! Asking again after failures that may pass, with pauses that double each time. -/

namespace Lineage

structure RetryPolicy where
  maxRetries : Nat
  baseDelay : Duration
  deriving DecidableEq, Repr

namespace RetryPolicy

/-- A single attempt. -/
def none : RetryPolicy := ⟨0, .zero⟩

def defaultRetries : Nat := 3

/-- At first a second passes between attempts. -/
def upTo (maxRetries : Nat) : RetryPolicy := ⟨maxRetries, .ofSeconds 1⟩

/-- The greatest factor between a pause and the first one. -/
def maxFactor : Nat := UInt32.size - 1

/-- Two to the attempt while that fits in 32 bits, else the greatest factor. The attempt itself counts
modulo 2³². -/
def factor (attempt : Nat) : Nat :=
  let k := attempt % UInt32.size
  if k < 32 then Nat.pow 2 k else maxFactor

/-- The pause after an attempt, the first of which is numbered zero. -/
def delayAfter (p : RetryPolicy) (attempt : Nat) : Duration :=
  p.baseDelay.scale (factor attempt)

end RetryPolicy

/-- At most a quarter of a pause is added to it, in milliseconds. -/
def maxJitter (delay : Duration) : Nat :=
  min (delay.milliseconds / 4) (UInt64.size - 1)

def withJitter (delay : Duration) (jitter : Fin (maxJitter delay + 1)) : Duration :=
  delay.add (.ofMilliseconds jitter)

namespace Outcome

/-- An error that may pass, or a status that may. -/
def isRetriable : Outcome → Bool
  | .failed fault => fault.isTransient
  | .answered reply => !reply.isSuccess && Reply.isTransientStatus reply.status

end Outcome

section

variable {m : Type → Type} [Monad m]

/-- Attempts until one is not worth repeating or no more than `left` were repeated. -/
def retryFrom (net : Network m) (policy : RetryPolicy) (once : m Outcome) :
    (left attempt : Nat) → m Outcome
  | 0, _ => once
  | left + 1, attempt => do
    let outcome ← once
    if outcome.isRetriable then do
      let delay := policy.delayAfter attempt
      let jitter ← net.draw (maxJitter delay)
      net.pause (withJitter delay jitter)
      retryFrom net policy once left (attempt + 1)
    else pure outcome

/-- The outcome of the last attempt. -/
def sendWithRetry (net : Network m) (policy : RetryPolicy) (once : m Outcome) : m Outcome :=
  retryFrom net policy once policy.maxRetries 0

end

end Lineage
