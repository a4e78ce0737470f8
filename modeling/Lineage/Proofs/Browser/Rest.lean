import Mathlib
import Lineage.Proofs.Browser.Run

/-! A browser that is given one command at a time. At rest nothing is in flight; a command starts one
effect, and its end starts one more or none, so that there is never a choice which effect is completed
next. Main statement: whatever the servers do, a browser that was at rest is at rest again once it has
settled after a command. -/

namespace Lineage

namespace Browser

structure AtRest (b : Browser) : Prop where
  inFlight : b.inFlight = []
  refs : b.state.refs.isLoading = false
  history : b.state.history.isLoading = false

/-- All that is in flight is the listing of the current server. -/
structure AwaitsRefs (b : Browser) : Prop where
  inFlight : ∃ server, b.inFlight = [.fetchRefs server b.state.refsGeneration]
  refs : b.state.refs = .loading
  selected : b.state.selected = none
  history : b.state.history.isLoading = false

/-- All that is in flight is the walk from the current selection. -/
structure AwaitsHistory (b : Browser) : Prop where
  inFlight : ∃ server hash, b.inFlight = [.walkHistory server hash b.state.historyGeneration]
  refs : b.state.refs.isLoading = false
  history : b.state.history = .loading

section

variable {b : Browser}

theorem AtRest.isSettled (h : AtRest b) : b.state.isSettled = true := by
  rw [State.isSettled, h.refs, h.history]
  rfl

theorem AwaitsRefs.isSettled (h : AwaitsRefs b) : b.state.isSettled = false := by
  rw [State.isSettled, h.refs]
  rfl

theorem AwaitsHistory.isSettled (h : AwaitsHistory b) : b.state.isSettled = false := by
  rw [State.isSettled, h.history]
  exact Bool.and_false _

theorem atRest_start (client : Client) (maxDepth : Nat) (preferred : Option String) :
    AtRest (.start client maxDepth preferred) := ⟨rfl, rfl, rfl⟩

theorem AtRest.setServer (h : AtRest b) (server : Url) :
    AwaitsRefs (b.dispatch (.setServer server)) where
  inFlight := ⟨server, by rw [dispatch, State.reduce_setServer, h.inFlight]; rfl⟩
  refs := rfl
  selected := rfl
  history := rfl

theorem isLoading_ofListing (answer : Except RequestError RefSet) :
    (Loadable.ofListing answer).isLoading = false := by
  cases answer <;> rfl

theorem isLoading_ofHistory (history : History) : (Loadable.ofHistory history).isLoading = false := by
  rcases Loadable.ofHistory_isShown history with ⟨_, h⟩ | ⟨_, h⟩ <;> rw [h] <;> rfl

/-- A selection starts a walk, unless there is no server. -/
theorem AtRest.select (h : AtRest b) (hash : String) :
    AtRest (b.dispatch (.select hash)) ∨ AwaitsHistory (b.dispatch (.select hash)) := by
  cases hserver : b.state.server with
  | none =>
      have hreduce : b.state.reduce (.select hash) = (b.state, []) := State.select_of_none hserver
      refine .inl ⟨?_, ?_, ?_⟩
      · rw [dispatch_inFlight, hreduce, h.inFlight]
        rfl
      · rw [dispatch_state, hreduce, h.refs]
      · rw [dispatch_state, hreduce, h.history]
  | some server =>
      have hreduce : b.state.select hash = _ := State.select_of_server hserver
      refine .inr ⟨⟨server, hash, ?_⟩, ?_, ?_⟩
      · rw [dispatch_inFlight, dispatch_state, State.reduce, hreduce, h.inFlight]
        rfl
      · rw [dispatch_state, State.reduce, hreduce]
        exact h.refs
      · rw [dispatch_state, State.reduce, hreduce]
        rfl

end

/-- The effect in flight has brought this action. -/
def bring (b : Browser) (action : Action) : Browser := { b with inFlight := [] }.dispatch action

section

variable {b : Browser}

theorem AwaitsRefs.bring (h : AwaitsRefs b) (answer : Except RequestError RefSet) :
    let c := b.bring (listingAction b.state.refsGeneration answer)
    AtRest c ∨ AwaitsHistory c := by
  have shown : AtRest { b with state := b.state.withRefs (.ofListing answer), inFlight := [] } :=
    ⟨rfl, isLoading_ofListing answer, h.history⟩
  dsimp only [Browser.bring, dispatch]
  rw [State.reduce_listing, h.selected]
  cases State.defaultHash? b.state.preferred (.ofListing answer) with
  | none => exact .inl shown
  | some hash => exact shown.select hash

theorem AwaitsHistory.bring (h : AwaitsHistory b) (history : History) :
    AtRest (b.bring (historyAction b.state.historyGeneration history)) := by
  rw [Browser.bring, dispatch, State.reduce_history]
  exact ⟨rfl, h.refs, isLoading_ofHistory history⟩

end

section

variable {σ : Type} {net : Network (StateM σ)} {b : Browser}

theorem AtRest.settleIn (h : AtRest b) (steps : Nat) : Browser.settleIn net steps b = pure b := by
  cases steps with
  | zero => rfl
  | succ steps => rw [Browser.settleIn, if_pos h.isSettled]

theorem AwaitsHistory.settleIn (h : AwaitsHistory b) (steps : Nat) (s : σ) :
    AtRest ((Browser.settleIn net (steps + 1) b).run s).1 := by
  obtain ⟨server, hash, hflight⟩ := h.inFlight
  let walked := (History.walk ((⟨b.client, server⟩ : Server).fetchCheckpoint net) b.maxDepth hash).run s
  have ended := h.bring walked.1
  rw [Browser.settleIn, h.isSettled, if_neg Bool.false_ne_true, hflight]
  change AtRest ((Browser.settleIn net steps
    (b.bring (historyAction b.state.historyGeneration walked.1))).run walked.2).1
  rw [ended.settleIn]
  exact ended

theorem AwaitsRefs.settleIn (h : AwaitsRefs b) (steps : Nat) (s : σ) :
    AtRest ((Browser.settleIn net (steps + 2) b).run s).1 := by
  obtain ⟨server, hflight⟩ := h.inFlight
  let listed := ((⟨b.client, server⟩ : Server).fetchRefs net).run s
  rw [Browser.settleIn, h.isSettled, if_neg Bool.false_ne_true, hflight]
  change AtRest ((Browser.settleIn net (steps + 1)
    (b.bring (listingAction b.state.refsGeneration listed.1))).run listed.2).1
  rcases h.bring listed.1 with ended | awaits
  · rw [ended.settleIn]
    exact ended
  · exact awaits.settleIn steps listed.2

/-- Two effects at most are completed before the browser has settled. -/
theorem AtRest.settle_setServer (h : AtRest b) (server : Url) (s : σ) :
    AtRest (((b.dispatch (.setServer server)).settle net).run s).1 := by
  obtain ⟨other, hflight⟩ := (h.setServer server).inFlight
  rw [settle, hflight]
  exact (h.setServer server).settleIn 0 s

theorem AtRest.settle_select (h : AtRest b) (hash : String) (s : σ) :
    AtRest (((b.dispatch (.select hash)).settle net).run s).1 := by
  rw [settle]
  rcases h.select hash with still | awaits
  · rw [still.settleIn]
    exact still
  · obtain ⟨server, other, hflight⟩ := awaits.inFlight
    rw [hflight]
    exact awaits.settleIn 1 s

end

end Browser

end Lineage
