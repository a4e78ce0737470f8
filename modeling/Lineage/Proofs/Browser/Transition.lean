import Mathlib
import Lineage.Browser

/-! What one action does to a browser's state, one equation for each case. Answers are told apart by
their generation: one that is not current changes nothing, one that is current is shown. A listing
may select a ref on its own; that is the same selection as one by hand. -/

namespace Lineage

namespace Loadable

variable {α : Type}

/-- What the answer to a listing is shown as. -/
def ofListing : Except RequestError RefSet → Loadable RefSet
  | .ok refs => .ready refs
  | .error error => .failed error.message

/-- What a walk is shown as. It failed if its very first request did. -/
def ofHistory (history : History) : Loadable History :=
  match history.ending with
  | .fetchFailed _ error => if history.isEmpty then .failed error else .ready history
  | _ => .ready history

/-- An answer has come, good or bad. -/
def IsShown (value : Loadable α) : Prop :=
  (∃ result, value = .ready result) ∨ ∃ error, value = .failed error

theorem ofListing_isShown (answer : Except RequestError RefSet) : (ofListing answer).IsShown := by
  cases answer with
  | ok refs => exact .inl ⟨refs, rfl⟩
  | error error => exact .inr ⟨error.message, rfl⟩

theorem ofHistory_isShown (history : History) : (ofHistory history).IsShown := by
  cases he : history.ending with
  | fetchFailed hash error => cases hc : history.isEmpty <;> simp [ofHistory, IsShown, he, hc]
  | _ => simp [ofHistory, IsShown, he]

theorem not_isShown_idle : ¬(idle : Loadable α).IsShown := by
  simp [IsShown]

theorem not_isShown_loading : ¬(loading : Loadable α).IsShown := by
  simp [IsShown]

end Loadable

namespace Browser

/-- What happens to a browser: a command, or the completion of an effect with the result of its
work. -/
inductive Event
  | setServer (server : Url)
  | select (hash : String)
  | listed (server : Url) (generation : UInt64) (answer : Except RequestError RefSet)
  | walked (server : Url) (hash : String) (generation : UInt64) (history : History)
  deriving DecidableEq

namespace Event

/-- The action that is dispatched. -/
def action : Event → Action
  | .setServer server => .setServer server
  | .select hash => .select hash
  | .listed _ generation answer => listingAction generation answer
  | .walked _ _ generation history => historyAction generation history

/-- The effect that is completed. -/
def completed : Event → Option Effect
  | .listed server generation _ => some (.fetchRefs server generation)
  | .walked server hash generation _ => some (.walkHistory server hash generation)
  | _ => none

/-- A walk gives the history of the hash that it was asked for. -/
def Honest : Event → Prop
  | .walked _ hash _ history => history.start = hash
  | _ => True

instance : DecidablePred Honest
  | .setServer _ | .select _ | .listed .. => isTrue trivial
  | .walked _ hash _ history => inferInstanceAs (Decidable (history.start = hash))

def isSetServer : Event → Bool
  | .setServer _ => true
  | _ => false

def isListed : Event → Bool
  | .listed .. => true
  | _ => false

/-- The other events are completions. -/
def isCommand : Event → Bool
  | .setServer _ | .select _ => true
  | _ => false

/-- The end of a walk starts nothing new; all other events may raise a counter. -/
def isTick (event : Event) : Bool := event.isCommand || event.isListed

end Event

namespace State

/-- The state that shows the server's refs as loading and nothing else of it. -/
def opened (s : State) (server : Url) : State :=
  { s with
    server := some server, refs := .loading, selected := none, history := .idle
    refsGeneration := s.refsGeneration + 1, historyGeneration := s.historyGeneration + 1 }

/-- The state that shows the hash's history as loading. -/
def picked (s : State) (hash : String) : State :=
  { s with historyGeneration := s.historyGeneration + 1, history := .loading, selected := some hash }

def withRefs (s : State) (refs : Loadable RefSet) : State := { s with refs }

def withHistory (s : State) (history : Loadable History) : State := { s with history }

/-- The hash of the default ref of what is listed. -/
def defaultHash? (preferred : Option String) : Loadable RefSet → Option String
  | .ready refs => (refs.default? preferred).map Ref.hash
  | _ => none

@[simp] theorem defaultHash?_loading (preferred : Option String) :
    defaultHash? preferred .loading = none := rfl

variable {s : State} {server : Url} {hash : String} {generation : UInt64}

theorem reduce_setServer :
    s.reduce (.setServer server) = (s.opened server, [.fetchRefs server (s.refsGeneration + 1)]) := rfl

theorem select_of_none (h : s.server = none) : s.select hash = (s, []) := by
  simp [select, h]

theorem select_of_server (h : s.server = some server) :
    s.select hash = (s.picked hash, [.walkHistory server hash (s.historyGeneration + 1)]) := by
  simp [select, picked, h]

theorem reduce_listing_stale {answer : Except RequestError RefSet}
    (h : generation ≠ s.refsGeneration) : s.reduce (listingAction generation answer) = (s, []) := by
  cases answer <;> simp [listingAction, reduce, h]

/-- A current listing is shown; with nothing selected yet it selects its default ref. -/
theorem reduce_listing (answer : Except RequestError RefSet) :
    s.reduce (listingAction s.refsGeneration answer) =
      match s.selected, defaultHash? s.preferred (.ofListing answer) with
      | none, some hash => (s.withRefs (.ofListing answer)).select hash
      | _, _ => (s.withRefs (.ofListing answer), []) := by
  cases answer with
  | error error =>
      cases hs : s.selected with
      | some hash => simp [listingAction, reduce, Loadable.ofListing, withRefs, hs]
      | none => simp [listingAction, reduce, Loadable.ofListing, withRefs, defaultHash?, hs]
  | ok refs =>
      cases hs : s.selected with
      | some hash => simp [listingAction, reduce, listed, Loadable.ofListing, withRefs, hs]
      | none =>
          cases hd : refs.default? s.preferred with
          | none =>
              simp [listingAction, reduce, listed, Loadable.ofListing, withRefs, defaultHash?, hs, hd]
          | some r =>
              simp [listingAction, reduce, listed, Loadable.ofListing, withRefs, defaultHash?, hs, hd]

theorem reduce_history_stale {history : History} (h : generation ≠ s.historyGeneration) :
    s.reduce (historyAction generation history) = (s, []) := by
  cases he : history.ending with
  | fetchFailed hash error => cases hc : history.isEmpty <;> simp [historyAction, reduce, he, hc, h]
  | _ => simp [historyAction, reduce, he, h]

theorem reduce_history (history : History) :
    s.reduce (historyAction s.historyGeneration history) =
      (s.withHistory (.ofHistory history), []) := by
  cases he : history.ending with
  | fetchFailed hash error =>
      cases hc : history.isEmpty <;>
        simp [historyAction, Loadable.ofHistory, reduce, withHistory, he, hc]
  | _ => simp [historyAction, Loadable.ofHistory, reduce, withHistory, he]

/-- All that an event can do to a state, and the effects that it starts. -/
inductive Change (s : State) : Event → State × List Effect → Prop
  | opened (server : Url) :
      Change s (.setServer server) (s.opened server, [.fetchRefs server (s.refsGeneration + 1)])
  | unserved (hash : String) (h : s.server = none) : Change s (.select hash) (s, [])
  | picked {server : Url} (hash : String) (h : s.server = some server) :
      Change s (.select hash) (s.picked hash, [.walkHistory server hash (s.historyGeneration + 1)])
  | staleRefs {generation : UInt64} (server : Url) (answer : Except RequestError RefSet)
      (h : generation ≠ s.refsGeneration) : Change s (.listed server generation answer) (s, [])
  /-- Nothing is selected along with the listing. -/
  | refs (server : Url) (answer : Except RequestError RefSet)
      (h : s.server = none ∨ s.selected ≠ none ∨ defaultHash? s.preferred (.ofListing answer) = none) :
      Change s (.listed server s.refsGeneration answer) (s.withRefs (.ofListing answer), [])
  | defaulted {other : Url} {hash : String} (server : Url) (answer : Except RequestError RefSet)
      (h : s.server = some other) (unselected : s.selected = none)
      (default : defaultHash? s.preferred (.ofListing answer) = some hash) :
      Change s (.listed server s.refsGeneration answer)
        ((s.withRefs (.ofListing answer)).picked hash,
          [.walkHistory other hash (s.historyGeneration + 1)])
  | staleHistory {generation : UInt64} (server : Url) (hash : String) (history : History)
      (h : generation ≠ s.historyGeneration) : Change s (.walked server hash generation history) (s, [])
  | history (server : Url) (hash : String) (history : History) :
      Change s (.walked server hash s.historyGeneration history)
        (s.withHistory (.ofHistory history), [])

theorem change (s : State) (event : Event) : Change s event (s.reduce event.action) := by
  cases event with
  | setServer server => exact .opened server
  | select hash =>
      rw [Event.action, reduce]
      cases hs : s.server with
      | none => rw [select_of_none hs]; exact .unserved hash hs
      | some server => rw [select_of_server hs]; exact .picked hash hs
  | listed server generation answer =>
      by_cases hg : generation = s.refsGeneration
      · subst generation
        rw [Event.action, reduce_listing]
        split
        · rename_i hash hselected hdefault
          have hsame : (s.withRefs (.ofListing answer)).server = s.server := rfl
          cases hs : s.server with
          | none => rw [select_of_none (hsame.trans hs)]; exact .refs server answer (.inl hs)
          | some other =>
              rw [select_of_server (hsame.trans hs)]
              exact .defaulted server answer hs hselected hdefault
        · rename_i hnot
          refine .refs server answer (.inr ?_)
          by_cases hselected : s.selected = none
          · refine .inr (Option.eq_none_iff_forall_ne_some.2 fun hash hdefault => ?_)
            exact hnot hash hselected hdefault
          · exact .inl hselected
      · rw [Event.action, reduce_listing_stale hg]
        exact .staleRefs server answer hg
  | walked server hash generation history =>
      by_cases hg : generation = s.historyGeneration
      · subst generation
        rw [Event.action, reduce_history]
        exact .history server hash history
      · rw [Event.action, reduce_history_stale hg]
        exact .staleHistory server hash history hg

end State

end Browser

end Lineage
