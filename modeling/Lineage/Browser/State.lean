import Lineage.History
import Lineage.RefSet
import Lineage.Url

/-! What a browser shows, and how actions change it. Work on the network is asked for as effects. Their
results carry the generation they were started in, and results of an older generation are dropped: a
late answer never replaces a newer one. -/

namespace Lineage

/-- Something that comes from a server. -/
inductive Loadable (α : Type)
  | idle
  | loading
  | ready (value : α)
  | failed (error : String)
  deriving DecidableEq, Repr

namespace Loadable

variable {α : Type}

def value? : Loadable α → Option α
  | .ready value => some value
  | _ => none

def isLoading : Loadable α → Bool
  | .loading => true
  | _ => false

end Loadable

inductive Phase
  | idle
  | loadingRefs
  | refsReady
  | loadingHistory
  | historyReady
  | failed
  deriving DecidableEq, Repr

def Phase.text : Phase → String
  | .idle => "idle"
  | .loadingRefs => "loading refs"
  | .refsReady => "refs ready"
  | .loadingHistory => "loading history"
  | .historyReady => "history ready"
  | .failed => "failed"

namespace Browser

inductive Action
  /-- All that came from the server before is forgotten. -/
  | setServer (server : Url)
  | refsLoaded (generation : UInt64) (refs : RefSet)
  | refsFailed (generation : UInt64) (error : String)
  | select (hash : String)
  | historyLoaded (generation : UInt64) (history : History)
  | historyFailed (generation : UInt64) (error : String)
  deriving DecidableEq

/-- Work to be done after a transition. -/
inductive Effect
  | fetchRefs (server : Url) (generation : UInt64)
  | walkHistory (server : Url) (hash : String) (generation : UInt64)
  deriving DecidableEq

structure State where
  server : Option Url
  refs : Loadable RefSet
  /-- The hash whose history is shown. -/
  selected : Option String
  history : Loadable History
  /-- The name of the ref to select when a listing arrives. -/
  preferred : Option String
  refsGeneration : UInt64
  historyGeneration : UInt64
  deriving DecidableEq

namespace State

def initial (preferred : Option String) : State :=
  { server := none, refs := .idle, selected := none, history := .idle, preferred
    refsGeneration := 0, historyGeneration := 0 }

def phase (s : State) : Phase :=
  match s.refs, s.history with
  | .failed _, _ | _, .failed _ => .failed
  | .loading, _ => .loadingRefs
  | _, .loading => .loadingHistory
  | _, .ready _ => .historyReady
  | .ready _, .idle => .refsReady
  | .idle, .idle => .idle

/-- The name of the first ref that points at the selected hash. -/
def selectedName (s : State) : Option String := do
  let hash ← s.selected
  let refs ← s.refs.value?
  refs.nameOf? hash

/-- Nothing is loading. -/
def isSettled (s : State) : Bool := !s.refs.isLoading && !s.history.isLoading

/-- Without a server there is nothing to select. -/
def select (s : State) (hash : String) : State × List Effect :=
  match s.server with
  | none => (s, [])
  | some server =>
    let generation := s.historyGeneration + 1
    ({ s with historyGeneration := generation, history := .loading, selected := some hash },
      [.walkHistory server hash generation])

def setServer (s : State) (server : Url) : State × List Effect :=
  let generation := s.refsGeneration + 1
  ({ s with
      server := some server, refs := .loading, selected := none, history := .idle
      refsGeneration := generation, historyGeneration := s.historyGeneration + 1 },
    [.fetchRefs server generation])

/-- A selection made while the listing was loading stays; else the default ref is selected. -/
def listed (s : State) (refs : RefSet) : State × List Effect :=
  let s := { s with refs := .ready refs }
  match s.selected, refs.default? s.preferred with
  | none, some r => s.select r.hash
  | _, _ => (s, [])

def reduce (s : State) : Action → State × List Effect
  | .setServer server => s.setServer server
  | .refsLoaded generation refs =>
    if generation = s.refsGeneration then s.listed refs else (s, [])
  | .refsFailed generation error =>
    if generation = s.refsGeneration then ({ s with refs := .failed error }, []) else (s, [])
  | .select hash => s.select hash
  | .historyLoaded generation history =>
    if generation = s.historyGeneration then ({ s with history := .ready history }, []) else (s, [])
  | .historyFailed generation error =>
    if generation = s.historyGeneration then ({ s with history := .failed error }, []) else (s, [])

/-- The hash that a ref's name or a hash means now. Names count once a listing is there. -/
def resolve (s : State) (nameOrHash : String) : String :=
  match s.refs.value? with
  | some refs => refs.resolve nameOrHash
  | none => nameOrHash

end State

end Browser

end Lineage
