import Lineage.Browser.State
import Lineage.Listing

/-! The state of a browser in lines. -/

namespace Lineage.Browser.State

def selectionText (s : State) : String :=
  match s.selectedName, s.selected with
  | some name, some hash => name ++ " (" ++ hash ++ ")"
  | none, some hash => hash
  | _, none => "(nothing)"

def statusLines (s : State) : List String :=
  let server := match s.server with
    | some server => server.text
    | none => "(none)"
  let refsFault := match s.refs with
    | .failed error => ["Refs failed: " ++ error]
    | _ => []
  let historyFault := match s.history with
    | .failed error => ["History failed: " ++ error]
    | _ => []
  ["Server: " ++ server, "Phase: " ++ s.phase.text, "Selected: " ++ s.selectionText]
    ++ refsFault ++ historyFault

def refsView (s : State) : List String :=
  match s.refs with
  | .ready refs => if refs.isEmpty then ["No refs"] else Listing.refLines refs s.preferred
  | .loading => ["Loading refs…"]
  | .failed error => ["❌ Failed to load refs: " ++ error]
  | .idle => ["No server selected"]

def historyLines (now : Instant) (h : History) : List String :=
  h.checkpoints.map (Listing.checkpointLine now)
    ++ (if h.isEmpty then ["(no checkpoints)"] else []) ++ (Listing.endNote h).toList

def historyView (now : Instant) (s : State) : List String :=
  match s.history with
  | .ready history => historyLines now history
  | .loading => ["Loading history…"]
  | .failed error => ["❌ Failed to load history: " ++ error]
  | .idle => ["Nothing selected"]

end Lineage.Browser.State
