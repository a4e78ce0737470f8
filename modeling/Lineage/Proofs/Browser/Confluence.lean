import Mathlib
import Lineage.Proofs.Browser.Freshness

/-! The order of completion leaves no trace. With servers whose contents do not change, a browser in
which nothing is in flight shows a state that its commands alone determine, up to the count of walks:
a walk that a listing started on its own is superseded by a selection or is the one that counts. -/

namespace Lineage.Browser

/-- What servers hold: a listing each, and a history for each hash. -/
structure Contents where
  listing : Url → Except RequestError RefSet
  walk : Url → String → History

/-- A completion brings what the server holds. -/
def Event.Tells (contents : Contents) : Event → Prop
  | .listed server _ answer => answer = contents.listing server
  | .walked server hash _ history => history = contents.walk server hash
  | _ => True

instance (contents : Contents) : DecidablePred (Event.Tells contents)
  | .setServer _ | .select _ => isTrue trivial
  | .listed server _ answer => inferInstanceAs (Decidable (answer = contents.listing server))
  | .walked server hash _ history => inferInstanceAs (Decidable (history = contents.walk server hash))

/-- The completion of an effect. -/
def Contents.answer (contents : Contents) : Effect → Event
  | .fetchRefs server generation => .listed server generation (contents.listing server)
  | .walkHistory server hash generation => .walked server hash generation (contents.walk server hash)

/-- The completions that are left to come at most: a listing may start a walk. -/
def outstanding (flight : List Effect) : Nat := flight.length + flight.countP Effect.isFetch

/-- The server that was set last. Newest command first. -/
def lastServer : List Event → Option Url
  | [] => none
  | .setServer server :: _ => some server
  | _ :: older => lastServer older

/-- The hash that was selected last, if the server was not changed since. -/
def lastChoice : List Event → Option String
  | [] => none
  | .setServer _ :: _ => none
  | .select hash :: _ => some hash
  | _ :: older => lastChoice older

/-- The state in which it all ends. A choice counts before the default ref. -/
def outcome (contents : Contents) (preferred : Option String) (commands : List Event) : State :=
  match lastServer commands with
  | none => .initial preferred
  | some server =>
    let refs := Loadable.ofListing (contents.listing server)
    let selected := (lastChoice commands).or (State.defaultHash? preferred refs)
    { server := some server, refs, selected, preferred
      history := match selected with
        | none => .idle
        | some hash => .ofHistory (contents.walk server hash)
      refsGeneration := .ofNat (commands.countP Event.isSetServer)
      historyGeneration := 0 }

/-- All of a state but the count of walks. -/
def State.withoutCount (s : State) : State := { s with historyGeneration := 0 }

theorem Trace.commands_cons (entry : Entry) (trace : Trace) :
    Trace.commands (entry :: trace) =
      if entry.event.isCommand then entry.event :: trace.commands else trace.commands :=
  List.filter_cons

section

variable {client : Client} {maxDepth : Nat} {preferred : Option String} {trace : Trace} {b : Browser}

theorem Run.preferred_eq (run : Run client maxDepth preferred trace b) :
    b.state.preferred = preferred := by
  induction run with
  | start => rfl
  | @step trace b _ event _ _ _ ih =>
      rw [dispatch_state, ← ih]
      have hchange := b.state.change event
      generalize b.state.reduce event.action = next at hchange ⊢
      cases hchange <;> rfl

theorem Run.server_eq (run : Run client maxDepth preferred trace b) :
    b.state.server = lastServer trace.commands := by
  induction run with
  | start => rfl
  | @step trace b _ event _ _ _ ih =>
      rw [dispatch_state, Trace.commands_cons]
      have hchange := b.state.change event
      generalize b.state.reduce event.action = next at hchange ⊢
      cases hchange with
      | opened => rfl
      | _ => exact ih

theorem Run.refsGeneration_eq (run : Run client maxDepth preferred trace b) :
    b.state.refsGeneration = .ofNat (trace.commands.countP Event.isSetServer) := by
  induction run with
  | start => rfl
  | @step trace b _ event _ _ _ ih =>
      rw [dispatch_state, Trace.commands_cons]
      have hchange := b.state.change event
      generalize b.state.reduce event.action = next at hchange ⊢
      cases hchange with
      | opened server =>
          change b.state.refsGeneration + 1 = .ofNat ((.setServer server :: trace.commands).countP _)
          rw [List.countP_cons_of_pos rfl, UInt64.ofNat_add, ih]
          rfl
      | _ => exact ih

/-- Every fetch was started by a change of server. -/
theorem Run.countP_fetch_started (run : Run client maxDepth preferred trace b) :
    trace.started.countP Effect.isFetch = trace.commands.countP Event.isSetServer := by
  induction run with
  | start => rfl
  | @step trace b _ event _ _ _ ih =>
      rw [Trace.started_cons, Trace.commands_cons, List.countP_append, ih]
      have hchange := b.state.change event
      generalize b.state.reduce event.action = next at hchange ⊢
      cases hchange with
      | opened server =>
          change 1 + _ = (Event.setServer server :: trace.commands).countP _
          rw [List.countP_cons_of_pos rfl, Nat.add_comm]
      | _ => exact Nat.zero_add _

theorem countP_fetch_completed (events : List Event) :
    (events.filterMap Event.completed).countP Effect.isFetch = events.countP Event.isListed := by
  induction events with
  | nil => rfl
  | cons event events ih =>
      cases event <;>
        simp [List.filterMap_cons, List.countP_cons, Event.completed, Event.isListed, Effect.isFetch,
          ih]

theorem ticks_le (events : List Event) :
    ticks events ≤ events.countP Event.isCommand + events.countP Event.isListed := by
  induction events with
  | nil => rfl
  | cons event events ih =>
      rw [ticks_cons, List.countP_cons, List.countP_cons]
      cases event <;> simp [Event.isTick, Event.isCommand, Event.isListed] <;> omega

/-- No counter is raised more than twice for a command: listings are as many as changes of server. -/
theorem Run.ticks_le_commands (run : Run client maxDepth preferred trace b) :
    ticks trace.events ≤ 2 * trace.commands.length := by
  have hlisted : trace.events.countP Event.isListed ≤ trace.commands.length :=
    calc trace.events.countP Event.isListed
        = trace.completed.countP Effect.isFetch := (countP_fetch_completed _).symm
      _ ≤ (b.inFlight ++ trace.completed).countP Effect.isFetch := by
          rw [List.countP_append]
          omega
      _ = trace.started.countP Effect.isFetch := (run.conserved.countP_eq _).symm
      _ = trace.commands.countP Event.isSetServer := run.countP_fetch_started
      _ ≤ trace.commands.length := List.countP_le_length
  have hcommands : trace.events.countP Event.isCommand = trace.commands.length :=
    List.countP_eq_length_filter
  have h := ticks_le trace.events
  omega

theorem Run.ticks_lt (run : Run client maxDepth preferred trace b)
    (short : trace.commands.length < 2 ^ 63) : ticks trace.events < UInt64.size := by
  have h := run.ticks_le_commands
  rw [UInt64.size]
  omega

/-- While the current fetch is in flight the refs are loading. -/
theorem Run.loading_of_fetch_inFlight (run : Run client maxDepth preferred trace b)
    (short : ticks trace.events < UInt64.size) {server : Url}
    (h : .fetchRefs server b.state.refsGeneration ∈ b.inFlight) : b.state.refs = .loading := by
  have tracked := run.tracked short
  have hserver := tracked.server_of_fetch (run.mem_started_of_inFlight h)
  rcases tracked.refs server hserver with ⟨hload, -⟩ | ⟨answer, hmem, -⟩
  · exact hload
  · have hcompleted : .fetchRefs server b.state.refsGeneration ∈ trace.completed :=
      List.mem_filterMap.2 ⟨_, hmem, rfl⟩
    have hdisjoint := (List.nodup_append.1 (run.conserved.nodup_iff.1 tracked.distinct)).2.2
    exact absurd rfl (hdisjoint _ h _ hcompleted)

/-- What is selected is the last choice, or else the default ref of what is listed. -/
theorem Run.selected_eq (run : Run client maxDepth preferred trace b)
    (short : ticks trace.events < UInt64.size) {server : Url} (h : b.state.server = some server) :
    b.state.selected =
      (lastChoice trace.commands).or (State.defaultHash? preferred b.state.refs) := by
  induction run generalizing server with
  | start => cases h
  | @step trace b run event rest taken _ ih =>
      have before : ticks trace.events < UInt64.size := (ticks_le_cons event _).trans_lt short
      have hpreferred := run.preferred_eq
      -- A current listing finds the refs loading: no default ref can have been selected before it.
      have loading (server : Url)
          (hc : event.completed = some (.fetchRefs server b.state.refsGeneration)) :
          b.state.refs = .loading := by
        have hmem : .fetchRefs server b.state.refsGeneration ∈ b.inFlight :=
          taken.mem_iff.2 (by simp [hc])
        exact run.loading_of_fetch_inFlight before hmem
      rw [dispatch_state] at h ⊢
      rw [Trace.commands_cons]
      have hchange := b.state.change event
      generalize b.state.reduce event.action = next at h hchange ⊢
      cases hchange with
      | opened => rfl
      | unserved _ hs => exact nomatch hs.symm.trans h
      | picked => rfl
      | refs other answer hkept =>
          have hchoice := ih before h
          rw [loading other rfl, State.defaultHash?_loading, Option.or_none] at hchoice
          change b.state.selected =
            (lastChoice trace.commands).or (State.defaultHash? _ (.ofListing answer))
          rcases hkept with hs | hselected | hdefault
          · exact nomatch hs.symm.trans h
          · obtain ⟨hash, hhash⟩ := Option.ne_none_iff_exists'.1 hselected
            rw [← hchoice, hhash, Option.some_or]
          · rw [← hpreferred, hdefault, Option.or_none, hchoice]
      | @defaulted _ hash other answer hs unselected hdefault =>
          have hchoice := ih before hs
          rw [loading other rfl, State.defaultHash?_loading, Option.or_none] at hchoice
          change some hash =
            (lastChoice trace.commands).or (State.defaultHash? _ (.ofListing answer))
          rw [← hchoice, unselected, Option.none_or, ← hpreferred, hdefault]
      | _ => exact ih before h

theorem countP_isSetServer_of_lastServer {commands : List Event} (h : lastServer commands = none) :
    commands.countP Event.isSetServer = 0 := by
  induction commands with
  | nil => rfl
  | cons command older ih =>
      cases command with
      | setServer => cases h
      | _ => exact ih h

section

variable {contents : Contents}

/-- The refs that are shown once they have been loaded are the server's. -/
theorem Tracked.refs_settled {events : List Event} {started flight : List Effect} {s : State}
    (h : Tracked events started flight s) (tells : ∀ event ∈ events, event.Tells contents)
    {server : Url} (hserver : s.server = some server) (loaded : s.refs.isLoading = false) :
    s.refs = .ofListing (contents.listing server) := by
  rcases h.refs server hserver with ⟨hload, -⟩ | ⟨answer, hmem, hrefs⟩
  · rw [hload] at loaded
    cases loaded
  · rw [hrefs, tells _ hmem]

/-- The history that is shown once it has been loaded is the selection's. -/
theorem Tracked.history_settled {events : List Event} {started flight : List Effect} {s : State}
    (h : Tracked events started flight s) (tells : ∀ event ∈ events, event.Tells contents)
    {server : Url} (hserver : s.server = some server) (loaded : s.history.isLoading = false) :
    s.history = match s.selected with
      | none => .idle
      | some hash => .ofHistory (contents.walk server hash) := by
  cases hselected : s.selected with
  | none => exact h.unselected hselected
  | some hash =>
      rcases h.history server hash hserver hselected with ⟨hload, -⟩ | ⟨history, hmem, hhistory⟩
      · rw [hload] at loaded
        cases loaded
      · rw [hhistory, tells _ hmem]

/-- With nothing in flight nothing is loading. -/
theorem Tracked.isSettled {events : List Event} {started : List Effect} {s : State}
    (h : Tracked events started [] s) : s.isSettled = true := by
  have loaded {α β : Type} {effect : Effect} {report : β → Event} {view : β → Loadable α}
      {value : Loadable α} (progress : Progress [] events effect report view value)
      (shows : ∀ result, (view result).IsShown) : value.isLoading = false := by
    rcases progress with ⟨-, hflight⟩ | ⟨result, -, rfl⟩
    · exact absurd hflight List.not_mem_nil
    · rcases shows result with ⟨_, hview⟩ | ⟨_, hview⟩ <;> rw [hview] <;> rfl
  have hrefs : s.refs.isLoading = false := by
    cases hserver : s.server with
    | none => rw [(h.unserved hserver).1]; rfl
    | some server => exact loaded (h.refs server hserver) Loadable.ofListing_isShown
  have hhistory : s.history.isLoading = false := by
    cases hselected : s.selected with
    | none => rw [h.unselected hselected]; rfl
    | some hash =>
        cases hserver : s.server with
        | none => exact nomatch hselected.symm.trans (h.unserved hserver).2
        | some server =>
            exact loaded (h.history server hash hserver hselected) Loadable.ofHistory_isShown
  rw [State.isSettled, hrefs, hhistory]
  rfl

/-- Effects that are still in flight once nothing is loading make no difference. -/
theorem Run.eq_outcome (run : Run client maxDepth preferred trace b)
    (short : trace.commands.length < 2 ^ 63) (tells : ∀ event ∈ trace.events, event.Tells contents)
    (settled : b.state.isSettled = true) :
    b.state.withoutCount = outcome contents preferred trace.commands := by
  have tracked := run.tracked (run.ticks_lt short)
  have hgeneration := run.refsGeneration_eq
  have hpreferred := run.preferred_eq
  have hloaded : b.state.refs.isLoading = false ∧ b.state.history.isLoading = false := by
    simpa [State.isSettled] using settled
  rw [outcome, ← run.server_eq]
  cases hserver : b.state.server with
  | none =>
      obtain ⟨hrefs, hselected⟩ := tracked.unserved hserver
      have hhistory := tracked.unselected hselected
      rw [countP_isSetServer_of_lastServer (run.server_eq.symm.trans hserver)] at hgeneration
      rw [State.withoutCount, hserver, hrefs, hselected, hhistory, hpreferred, hgeneration]
      rfl
  | some server =>
      have hrefs := tracked.refs_settled tells hserver hloaded.1
      have hselected := run.selected_eq (run.ticks_lt short) hserver
      have hhistory := tracked.history_settled tells hserver hloaded.2
      rw [hrefs] at hselected
      rw [State.withoutCount, hhistory, hserver, hrefs, hselected, hpreferred, hgeneration]

theorem Run.settled_eq_outcome (run : Run client maxDepth preferred trace b)
    (short : trace.commands.length < 2 ^ 63) (tells : ∀ event ∈ trace.events, event.Tells contents)
    (settled : b.inFlight = []) :
    b.state.withoutCount = outcome contents preferred trace.commands := by
  have tracked := run.tracked (run.ticks_lt short)
  rw [settled] at tracked
  exact run.eq_outcome short tells tracked.isSettled

theorem outstanding_answer_lt (contents : Contents) (s : State) (effect : Effect)
    (rest : List Effect) :
    outstanding (rest ++ (s.reduce (contents.answer effect).action).2) <
      outstanding (effect :: rest) := by
  have hchange := s.change (contents.answer effect)
  generalize s.reduce (contents.answer effect).action = next at hchange ⊢
  rw [outstanding, outstanding, List.length_append, List.countP_append, List.length_cons,
    List.countP_cons]
  cases effect with
  | fetchRefs => cases hchange <;> simp [Effect.isFetch] <;> omega
  | walkHistory => cases hchange <;> simp [Effect.isFetch]

/-- Without further commands every run comes to an end in which nothing is in flight. -/
theorem Run.completable (run : Run client maxDepth preferred trace b)
    (honest : ∀ server hash, (contents.walk server hash).start = hash)
    (tells : ∀ event ∈ trace.events, event.Tells contents) :
    ∃ whole c, Run client maxDepth preferred whole c ∧ whole.commands = trace.commands ∧
      (∀ event ∈ whole.events, event.Tells contents) ∧ c.inFlight = [] := by
  induction hn : outstanding b.inFlight using Nat.strong_induction_on generalizing trace b with
  | _ n ih =>
      cases hflight : b.inFlight with
      | nil => exact ⟨trace, b, run, rfl, tells, hflight⟩
      | cons effect rest =>
          have hanswer : (contents.answer effect).completed = some effect := by cases effect <;> rfl
          have hnot : (contents.answer effect).isCommand = false := by cases effect <;> rfl
          have htells : (contents.answer effect).Tells contents := by cases effect <;> rfl
          have hhonest : (contents.answer effect).Honest := by
            cases effect with
            | fetchRefs => trivial
            | walkHistory server hash => exact honest server hash
          have next := run.step (contents.answer effect) rest (by rw [hflight, hanswer]; rfl) hhonest
          have hless := outstanding_answer_lt contents b.state effect rest
          rw [← hflight, hn] at hless
          obtain ⟨whole, c, hrun, hcommands, hall, hdone⟩ :=
            ih _ hless next (List.forall_mem_cons.2 ⟨htells, tells⟩) rfl
          rw [Trace.commands_cons, if_neg (by simp [hnot])] at hcommands
          exact ⟨whole, c, hrun, hcommands, hall, hdone⟩

/-- Two runs of the same commands that are both completed, in whichever order, show the same. -/
theorem completion_order_irrelevant {other : Trace} {c : Browser}
    (first : Run client maxDepth preferred trace b) (second : Run client maxDepth preferred other c)
    (same : trace.commands = other.commands) (short : trace.commands.length < 2 ^ 63)
    (firstTells : ∀ event ∈ trace.events, event.Tells contents)
    (secondTells : ∀ event ∈ other.events, event.Tells contents)
    (firstSettled : b.inFlight = []) (secondSettled : c.inFlight = []) :
    b.state.withoutCount = c.state.withoutCount ∧
      c.state.withoutCount = outcome contents preferred trace.commands := by
  have hb := first.settled_eq_outcome short firstTells firstSettled
  have hc := second.settled_eq_outcome (same ▸ short) secondTells secondSettled
  rw [← same] at hc
  exact ⟨hb.trans hc.symm, hc⟩

/-- The listing comes before the selection, and the walk that it starts is the last one to answer; or
the selection comes before the listing. -/
theorem completion_order_irrelevant_for_late_listing :
    ∃ contents trace b other c, Run plainClient 1 none trace b ∧ Run plainClient 1 none other c ∧
      trace ≠ other ∧ trace.commands = other.commands ∧ b.inFlight = [] ∧ c.inFlight = [] ∧
      b.state.withoutCount = c.state.withoutCount ∧
      c.state.withoutCount = outcome contents none trace.commands := by
  let contents : Contents :=
    ⟨fun _ => .ok (.ofList [⟨"main", "a"⟩]), fun _ hash => ⟨hash, [.bare hash], .root⟩⟩
  have first := (Run.start : Run plainClient 1 none [] (.start plainClient 1 none))
    |>.step (.setServer (localServer 80)) [] .nil trivial
    |>.step (.listed (localServer 80) 1 (.ok (.ofList [⟨"main", "a"⟩]))) [] (.refl _) trivial
    |>.step (.select "b") [.walkHistory (localServer 80) "a" 2] (.refl _) trivial
    |>.step (.walked (localServer 80) "b" 3 ⟨"b", [.bare "b"], .root⟩)
      [.walkHistory (localServer 80) "a" 2] (.swap ..) rfl
    |>.step (.walked (localServer 80) "a" 2 ⟨"a", [.bare "a"], .root⟩) [] (.refl _) rfl
  have second := (Run.start : Run plainClient 1 none [] (.start plainClient 1 none))
    |>.step (.setServer (localServer 80)) [] .nil trivial
    |>.step (.select "b") [.fetchRefs (localServer 80) 1] (.refl _) trivial
    |>.step (.walked (localServer 80) "b" 2 ⟨"b", [.bare "b"], .root⟩)
      [.fetchRefs (localServer 80) 1] (.swap ..) rfl
    |>.step (.listed (localServer 80) 1 (.ok (.ofList [⟨"main", "a"⟩]))) [] (.refl _) trivial
  exact ⟨contents, _, _, _, _, first, second, by decide, rfl, rfl, rfl,
    completion_order_irrelevant first second rfl (by decide) (by decide) (by decide) rfl rfl⟩

end

end

end Lineage.Browser
