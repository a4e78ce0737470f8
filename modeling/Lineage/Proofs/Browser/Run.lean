import Mathlib
import Lineage.Proofs.Browser.Transition

/-! Runs of a browser under any order of completion. A run is told by its trace, newest entry first;
an entry holds what happened and the effects that it started. Commands may come at any time, and any
effect in flight may be the next to be completed. Main statement: effects are neither lost nor
invented, those started are those in flight and those completed. -/

namespace Lineage

namespace Browser

namespace Effect

def isFetch : Effect → Bool
  | .fetchRefs .. => true
  | .walkHistory .. => false

def isWalk (effect : Effect) : Bool := !effect.isFetch

end Effect

structure Entry where
  event : Event
  started : List Effect
  deriving DecidableEq

/-- Newest entry first. -/
abbrev Trace := List Entry

namespace Trace

def events (trace : Trace) : List Event := trace.map Entry.event

/-- The effects that were started, newest first. -/
def started (trace : Trace) : List Effect := trace.flatMap Entry.started

/-- The effects that were completed, newest first. -/
def completed (trace : Trace) : List Effect := trace.events.filterMap Event.completed

/-- The commands that were given, newest first. -/
def commands (trace : Trace) : List Event := trace.events.filter Event.isCommand

variable (entry : Entry) (trace : Trace)

@[simp] theorem events_nil : events [] = [] := rfl

@[simp] theorem events_cons : events (entry :: trace) = entry.event :: trace.events := rfl

@[simp] theorem started_nil : started [] = [] := rfl

@[simp] theorem started_cons : started (entry :: trace) = entry.started ++ trace.started := rfl

@[simp] theorem completed_nil : completed [] = [] := rfl

@[simp] theorem completed_cons :
    completed (entry :: trace) = entry.event.completed.toList ++ trace.completed := by
  cases h : entry.event.completed <;> simp [completed, h]

end Trace

/-- From a new browser. An event takes the effect that it completes, if any, out of those in flight,
whichever of them that is; the effects that it starts join the others. -/
inductive Run (client : Client) (maxDepth : Nat) (preferred : Option String) : Trace → Browser → Prop
  | start : Run client maxDepth preferred [] (Browser.start client maxDepth preferred)
  | step {trace : Trace} {b : Browser} (run : Run client maxDepth preferred trace b) (event : Event)
      (rest : List Effect) (taken : b.inFlight.Perm (event.completed.toList ++ rest))
      (honest : event.Honest) :
      Run client maxDepth preferred (⟨event, (b.state.reduce event.action).2⟩ :: trace)
        ({ b with inFlight := rest }.dispatch event.action)

@[simp] theorem dispatch_state (b : Browser) (action : Action) :
    (b.dispatch action).state = (b.state.reduce action).1 := rfl

@[simp] theorem dispatch_inFlight (b : Browser) (action : Action) :
    (b.dispatch action).inFlight = b.inFlight ++ (b.state.reduce action).2 := rfl

variable {client : Client} {maxDepth : Nat} {preferred : Option String} {trace : Trace} {b : Browser}

/-- Effects are neither lost nor invented. -/
theorem Run.conserved (run : Run client maxDepth preferred trace b) :
    trace.started.Perm (b.inFlight ++ trace.completed) := by
  induction run with
  | start => exact .nil
  | @step trace b _ event rest taken _ ih =>
      simp only [Trace.started_cons, Trace.completed_cons, dispatch_inFlight]
      have hin : trace.started.Perm (event.completed.toList ++ rest ++ trace.completed) :=
        ih.trans (taken.append_right _)
      refine (hin.append_left _).trans ?_
      rw [List.perm_iff_count]
      intro effect
      simp only [List.count_append]
      omega

theorem Run.honest (run : Run client maxDepth preferred trace b) {event : Event}
    (h : event ∈ trace.events) : event.Honest := by
  induction run with
  | start => cases h
  | step _ other _ _ honest ih =>
      rcases List.mem_cons.1 h with rfl | hmem
      · exact honest
      · exact ih hmem

theorem Run.mem_started_of_inFlight (run : Run client maxDepth preferred trace b) {effect : Effect}
    (h : effect ∈ b.inFlight) : effect ∈ trace.started :=
  run.conserved.mem_iff.2 (List.mem_append_left _ h)

/-- A server on this machine. -/
def localServer (port : Nat) : Url :=
  ⟨.http, [], none, .ipv6 [0, 0, 0, 0, 0, 0, 0, 1], some port, [[]]⟩

/-- A client that asks once. -/
def plainClient : Client := ⟨"", "", .none⟩

end Browser

end Lineage
