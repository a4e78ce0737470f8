import Mathlib
import Lineage.Command.Log

/-! Logging in two parts: the walk over a history, and the report of it. The report of a history asks for
nothing but affixes, and only if they are to be listed. -/

namespace Lineage

namespace Command

section

variable {m : Type → Type} [Monad m] (net : Network m) (now : Instant) (setup : Setup)
variable (options : LogOptions) (server : Server)

/-- The history to be logged, before any of it is printed. -/
def logWalk : m (Except CommandError History) := do
  match ← startHash net setup server options.target with
  | .error error => pure (.error error)
  | .ok start => do
    let history ← History.walk (server.fetchCheckpoint net) (setup.depth options.maxDepth) start
    pure (.ok history)

/-- What is reported of it. -/
def logReport : Except CommandError History → m Report
  | .error error => pure (.failed error)
  | .ok history =>
    if options.json then pure (.printed [history.toJson.pretty])
    else if history.isEmpty then
      pure (.failed (.noHistory history.start ((Listing.endNote history).getD "")))
    else do
      let texts ← historyTexts net server now options.affix history
      pure (.printed texts)

/-- Logging walks first and reports then. -/
theorem log_eq [LawfulMonad m] : log net now setup options =
    match setup.connect with
    | .error error => pure (.failed error)
    | .ok server => logWalk net setup options server >>= logReport net now options server := by
  unfold log
  cases setup.connect with
  | error error => rfl
  | ok server =>
      simp only [logWalk, bind_assoc]
      refine bind_congr fun start => ?_
      cases start with
      | error error => rw [pure_bind]; rfl
      | ok start =>
          simp only [History.walk, bind_assoc, pure_bind]
          rfl

end

/-- Why the history stops early, after a blank line. -/
def noteTexts (h : History) : List String :=
  ((Listing.endNote h).map ("\n" ++ ·)).toList

section

variable {m : Type → Type} [Monad m] (net : Network m) (server : Server) (now : Instant)

theorem checkpointTexts_plain (c : Checkpoint) :
    checkpointTexts net server now false c = pure [Listing.checkpointLine now c] := rfl

theorem historyTexts_plain [LawfulMonad m] (h : History) :
    historyTexts net server now false h =
      pure (h.checkpoints.map (Listing.checkpointLine now) ++ noteTexts h) := by
  have hlines : (h.checkpoints.map fun c => [Listing.checkpointLine now c]).flatten =
      h.checkpoints.map (Listing.checkpointLine now) := by
    rw [← List.flatMap_def, List.map_eq_flatMap]
  rw [historyTexts, funext (checkpointTexts_plain net server now), List.mapM_pure, pure_bind, hlines,
    noteTexts]

end

section

variable {m : Type → Type} [Monad m] (net : Network m) (now : Instant) (server : Server) {h : History}
variable (target : Option String) (maxDepth : Option UInt64) (affix : Bool)

theorem logReport_of_isEmpty (empty : h.isEmpty = true) :
    logReport net now ⟨target, maxDepth, affix, false⟩ server (.ok h) =
      pure (.failed (.noHistory h.start ((Listing.endNote h).getD ""))) := by
  rw [logReport, if_neg Bool.false_ne_true, if_pos empty]

theorem logReport_of_checkpoints (found : h.isEmpty = false) :
    logReport net now ⟨target, maxDepth, affix, false⟩ server (.ok h) =
      historyTexts net server now affix h >>= fun texts => pure (.printed texts) := by
  rw [logReport, if_neg Bool.false_ne_true, found, if_neg Bool.false_ne_true]

end

end Command

end Lineage
