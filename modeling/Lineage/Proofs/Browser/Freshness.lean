import Mathlib
import Lineage.Proofs.Browser.Tracking

/-! A browser shows nothing stale. Refs that are shown are those of the fetch which the last change of
server started; a history that is shown is that of the last walk, which was started since then for the
server and the hash that are selected now. -/

namespace Lineage.Browser

/-- The entries after the last change of server. -/
def Trace.sinceServer (trace : Trace) : Trace := trace.takeWhile (!·.event.isSetServer)

/-- All that is shown, and where it comes from. No effect is started twice or completed twice, so that
each is known by its value. -/
structure Fresh (trace : Trace) (s : State) : Prop where
  started_nodup : trace.started.Nodup
  completed_nodup : trace.completed.Nodup
  refs : s.refs.IsShown → ∃ server generation answer,
    trace.find? (·.event.isSetServer) = some ⟨.setServer server, [.fetchRefs server generation]⟩ ∧
      .listed server generation answer ∈ trace.events ∧ s.refs = .ofListing answer ∧
      s.server = some server
  history : s.history.IsShown → ∃ server hash generation history,
    trace.started.find? Effect.isWalk = some (.walkHistory server hash generation) ∧
      .walkHistory server hash generation ∈ trace.sinceServer.started ∧
      .walked server hash generation history ∈ trace.events ∧ history.start = hash ∧
      s.history = .ofHistory history ∧ s.server = some server ∧ s.selected = some hash

section

variable {s : State} {event : Event}

/-- Only a change of server changes which fetch counts. -/
theorem reduce_fetch? (h : event.isSetServer = false) :
    (s.reduce event.action).1.fetch? = s.fetch? := by
  have hchange := s.change event
  generalize s.reduce event.action = next at hchange ⊢
  cases hchange with
  | opened => cases h
  | _ => rfl

/-- The walk that counts is the one started last. -/
theorem reduce_walk? (h : event.isSetServer = false) :
    ((s.reduce event.action).2 = [] ∧ (s.reduce event.action).1.walk? = s.walk?) ∨
      ∃ effect, effect.isWalk = true ∧ (s.reduce event.action).2 = [effect] ∧
        (s.reduce event.action).1.walk? = some effect := by
  have hchange := s.change event
  generalize s.reduce event.action = next at hchange ⊢
  cases hchange with
  | opened => cases h
  | picked hash hs => exact .inr ⟨_, rfl, rfl, walk?_eq_some.2 ⟨hs, rfl, rfl⟩⟩
  | defaulted _ _ hs => exact .inr ⟨_, rfl, rfl, walk?_eq_some.2 ⟨hs, rfl, rfl⟩⟩
  | _ => exact .inl ⟨rfl, rfl⟩

end

section

variable {client : Client} {maxDepth : Nat} {preferred : Option String} {trace : Trace} {b : Browser}

theorem Run.latest_fetch (run : Run client maxDepth preferred trace b) {server : Url}
    {generation : UInt64} (h : b.state.fetch? = some (.fetchRefs server generation)) :
    trace.find? (·.event.isSetServer) =
      some ⟨.setServer server, [.fetchRefs server generation]⟩ := by
  induction run with
  | start => simp [Browser.start, State.fetch?, State.initial] at h
  | @step trace b _ event rest _ _ ih =>
      cases hevent : event.isSetServer with
      | false =>
          rw [dispatch_state, reduce_fetch? hevent] at h
          rw [List.find?_cons_of_neg (by simp [hevent]), ih h]
      | true =>
          rw [List.find?_cons_of_pos (by simp [hevent])]
          cases event with
          | setServer other =>
              obtain ⟨hserver, rfl⟩ := fetch?_eq_some.1 h
              obtain rfl : other = server := Option.some.inj hserver
              rfl
          | _ => cases hevent

theorem Run.latest_walk (run : Run client maxDepth preferred trace b) {effect : Effect}
    (h : b.state.walk? = some effect) :
    trace.sinceServer.started.find? Effect.isWalk = some effect := by
  induction run generalizing effect with
  | start => simp [Browser.start, State.walk?, State.initial] at h
  | @step trace b _ event rest _ _ ih =>
      cases hevent : event.isSetServer with
      | false =>
          rw [Trace.sinceServer, List.takeWhile_cons_of_pos (by simp [hevent]), Trace.started_cons]
          rcases reduce_walk? (s := b.state) hevent with ⟨hnone, hsame⟩ | ⟨walk, hwalk, hstarted, hnew⟩
          · rw [dispatch_state, hsame] at h
            rw [hnone, List.nil_append]
            exact ih h
          · rw [dispatch_state, hnew] at h
            rw [hstarted, List.singleton_append, List.find?_cons_of_pos hwalk, h]
      | true =>
          cases event with
          | setServer other =>
              simp [Event.action, State.reduce_setServer, State.walk?, State.opened] at h
          | _ => cases hevent

theorem Trace.sinceServer_started_append (trace : Trace) :
    ∃ older, trace.started = trace.sinceServer.started ++ older :=
  ⟨(trace.dropWhile (!·.event.isSetServer)).flatMap Entry.started, by
    rw [Trace.started, Trace.started, ← List.flatMap_append, Trace.sinceServer,
      List.takeWhile_append_dropWhile]⟩

/-- The walk that counts is the last one of all. -/
theorem Run.latest_walk_of_all (run : Run client maxDepth preferred trace b) {effect : Effect}
    (h : b.state.walk? = some effect) : trace.started.find? Effect.isWalk = some effect := by
  obtain ⟨older, holder⟩ := trace.sinceServer_started_append
  rw [holder, List.find?_append, run.latest_walk h, Option.some_or]

namespace Tracked

variable {events : List Event} {started flight : List Effect} {s : State}

/-- What is shown of the server's refs was reported for its fetch. -/
theorem refs_of_isShown (h : Tracked events started flight s) (shown : s.refs.IsShown) :
    ∃ server answer, s.server = some server ∧
      .listed server s.refsGeneration answer ∈ events ∧ s.refs = .ofListing answer := by
  cases hserver : s.server with
  | none =>
      rw [(h.unserved hserver).1] at shown
      exact absurd shown Loadable.not_isShown_idle
  | some server =>
      rcases h.refs server hserver with ⟨hload, -⟩ | ⟨answer, hmem, hrefs⟩
      · rw [hload] at shown
        exact absurd shown Loadable.not_isShown_loading
      · exact ⟨server, answer, rfl, hmem, hrefs⟩

/-- What is shown of the selection's history was reported for its walk. -/
theorem history_of_isShown (h : Tracked events started flight s) (shown : s.history.IsShown) :
    ∃ server hash history, s.server = some server ∧ s.selected = some hash ∧
      .walked server hash s.historyGeneration history ∈ events ∧ s.history = .ofHistory history := by
  cases hselected : s.selected with
  | none =>
      rw [h.unselected hselected] at shown
      exact absurd shown Loadable.not_isShown_idle
  | some hash =>
      cases hserver : s.server with
      | none => exact nomatch hselected.symm.trans (h.unserved hserver).2
      | some server =>
          rcases h.history server hash hserver hselected with ⟨hload, -⟩ | ⟨history, hmem, hhistory⟩
          · rw [hload] at shown
            exact absurd shown Loadable.not_isShown_loading
          · exact ⟨server, hash, history, rfl, rfl, hmem, hhistory⟩

end Tracked

/-- In any order of completion, and with any number of effects in flight. -/
theorem shown_is_fresh (run : Run client maxDepth preferred trace b)
    (short : trace.length < UInt64.size) : Fresh trace b.state := by
  have tracked := run.tracked ((ticks_le_length trace).trans_lt short)
  have hnodup := (run.conserved.nodup_iff.1 tracked.distinct)
  refine ⟨tracked.distinct, (List.nodup_append.1 hnodup).2.1, fun shown => ?_, fun shown => ?_⟩
  · obtain ⟨server, answer, hserver, hmem, hrefs⟩ := tracked.refs_of_isShown shown
    exact ⟨server, _, answer, run.latest_fetch (fetch?_eq_some.2 ⟨hserver, rfl⟩), hmem, hrefs, hserver⟩
  · obtain ⟨server, hash, history, hserver, hselected, hmem, hhistory⟩ :=
      tracked.history_of_isShown shown
    have hwalk := walk?_eq_some.2 ⟨hserver, hselected, rfl⟩
    exact ⟨server, hash, _, history, run.latest_walk_of_all hwalk,
      List.mem_of_find?_eq_some (run.latest_walk hwalk), hmem, run.honest hmem, hhistory, hserver,
      hselected⟩

/-- The first server's listing is late, and is dropped. -/
theorem shown_is_fresh_after_late_listing :
    ∃ trace b, Run plainClient 1 none trace b ∧ trace.length < UInt64.size ∧ Fresh trace b.state ∧
      b.state.server = some (localServer 81) ∧ b.state.refs.IsShown ∧
      b.state.history = .ready ⟨"a", [.bare "a"], .root⟩ := by
  have run := (Run.start : Run plainClient 1 none [] (.start plainClient 1 none))
    |>.step (.setServer (localServer 80)) [] .nil trivial
    |>.step (.setServer (localServer 81)) [.fetchRefs (localServer 80) 1] (.refl _) trivial
    |>.step (.listed (localServer 81) 2 (.ok (.ofList [⟨"main", "a"⟩])))
      [.fetchRefs (localServer 80) 1] (.swap ..) trivial
    |>.step (.listed (localServer 80) 1 (.ok (.ofList [⟨"main", "b"⟩])))
      [.walkHistory (localServer 81) "a" 3] (.refl _) trivial
    |>.step (.walked (localServer 81) "a" 3 ⟨"a", [.bare "a"], .root⟩) [] (.refl _) rfl
  exact ⟨_, _, run, by decide, shown_is_fresh run (by decide), rfl, .inl ⟨_, rfl⟩, rfl⟩

end

end Lineage.Browser
