import Lineage.Command.Report
import Lineage.History.Record
import Lineage.History.Walk
import Lineage.Listing

/-! Printing the history of a ref or a checkpoint. -/

namespace Lineage.Command

structure LogOptions where
  /-- The name of a ref, or a hash; the default ref if absent. -/
  target : Option String
  maxDepth : Option UInt64
  /-- The events that each checkpoint appended are listed too. -/
  affix : Bool
  json : Bool
  deriving DecidableEq, Repr

/-- The hash to start from. A target needs no listing. -/
def resolveStart (target : Option String) (refs : Option RefSet) (preferred : Option String) :
    Except CommandError String :=
  match target, refs with
  | some target, some refs => .ok (refs.resolve target)
  | some target, none => .ok target
  | none, some refs =>
    match refs.default? preferred with
    | some r => .ok r.hash
    | none => .error .noRefs
  | none, none => .error .noListing

variable {m : Type → Type} [Monad m]

/-- What is shown of an affix. Nothing is, if fetching it fails. -/
def affixTexts (net : Network m) (server : Server) (hash : String) : m (List String) := do
  match ← server.fetchAffix net hash with
  | .ok (some affix) =>
    pure (s!"    affix {Hash.abbreviate affix.hash} ({affix.eventCount} events)"
      :: Listing.affixLines affix)
  | .ok none => pure ["    (empty affix)"]
  | .error _ => pure []

def checkpointTexts (net : Network m) (server : Server) (now : Instant) (affix : Bool)
    (c : Checkpoint) : m (List String) := do
  let line := Listing.checkpointLine now c
  if affix && !c.affixHash.isEmpty then do
    let texts ← affixTexts net server c.affixHash
    pure (line :: texts)
  else pure [line]

/-- The checkpoints and, after a blank line, why the history stops early. -/
def historyTexts (net : Network m) (server : Server) (now : Instant) (affix : Bool) (h : History) :
    m (List String) := do
  let texts ← h.checkpoints.mapM (checkpointTexts net server now affix)
  pure (texts.flatten ++ ((Listing.endNote h).map ("\n" ++ ·)).toList)

/-- A listing that fails is no hindrance when a target is given. -/
def startHash (net : Network m) (setup : Setup) (server : Server) (target : Option String) :
    m (Except CommandError String) := do
  match ← server.fetchRefs net, target with
  | .error error, none => pure (.error (.listingFailed server.base error))
  | listing, target => pure (resolveStart target listing.toOption setup.settings.defaultRef)

def log (net : Network m) (now : Instant) (setup : Setup) (options : LogOptions) : m Report := do
  match setup.connect with
  | .error error => pure (.failed error)
  | .ok server =>
    match ← startHash net setup server options.target with
    | .error error => pure (.failed error)
    | .ok start => do
      let depth := setup.depth options.maxDepth
      let history ← History.walk (server.fetchCheckpoint net) depth start
      if options.json then pure (.printed [history.toJson.pretty])
      else if history.isEmpty then
        pure (.failed (.noHistory start ((Listing.endNote history).getD "")))
      else do
        let texts ← historyTexts net server now options.affix history
        pure (.printed texts)

end Lineage.Command
