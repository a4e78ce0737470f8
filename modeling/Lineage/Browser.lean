import Lineage.Browser.State
import Lineage.History.Walk
import Lineage.Server

/-! A browser: its state, and the effects that are in flight. Effects may be completed in any order; to
settle, they are completed in the order in which they were started. -/

namespace Lineage

structure Browser where
  client : Client
  /-- The most checkpoints in one history. -/
  maxDepth : Nat
  state : Browser.State
  inFlight : List Browser.Effect
  deriving DecidableEq

namespace Browser

def start (client : Client) (maxDepth : Nat) (preferred : Option String) : Browser :=
  ⟨client, maxDepth, .initial preferred, []⟩

def dispatch (b : Browser) (action : Action) : Browser :=
  let (state, effects) := b.state.reduce action
  { b with state, inFlight := b.inFlight ++ effects }

/-- The server that a text names. -/
def setServer (b : Browser) (raw : String) : Except RequestError Browser :=
  match Url.server raw with
  | .ok server => .ok (b.dispatch (.setServer server))
  | .error fault => .error (.invalidUrl raw fault)

def select (b : Browser) (nameOrHash : String) : Browser :=
  b.dispatch (.select (b.state.resolve nameOrHash))

/-- The result of listing refs. -/
def listingAction (generation : UInt64) : Except RequestError RefSet → Action
  | .ok refs => .refsLoaded generation refs
  | .error error => .refsFailed generation error.message

/-- The result of a walk. It failed only if its very first request did. -/
def historyAction (generation : UInt64) (history : History) : Action :=
  match history.ending with
  | .fetchFailed _ error =>
    if history.isEmpty then .historyFailed generation error else .historyLoaded generation history
  | _ => .historyLoaded generation history

section

variable {m : Type → Type} [Monad m]

/-- The work of an effect. -/
def perform (net : Network m) (client : Client) (maxDepth : Nat) : Effect → m Action
  | .fetchRefs server generation => do
    let listing ← (⟨client, server⟩ : Server).fetchRefs net
    pure (listingAction generation listing)
  | .walkHistory server hash generation => do
    let history ← History.walk ((⟨client, server⟩ : Server).fetchCheckpoint net) maxDepth hash
    pure (historyAction generation history)

/-- At most `steps` effects are completed. -/
def settleIn (net : Network m) : (steps : Nat) → Browser → m Browser
  | 0, b => pure b
  | steps + 1, b =>
    if b.state.isSettled then pure b
    else match b.inFlight with
      | [] => pure b
      | effect :: rest => do
        let action ← perform net b.client b.maxDepth effect
        settleIn net steps ({ b with inFlight := rest }.dispatch action)

/-- Effects are completed until nothing is loading. Each one causes at most one more, and that one none. -/
def settle (net : Network m) (b : Browser) : m Browser :=
  settleIn net (2 * b.inFlight.length) b

end

end Browser

end Lineage
