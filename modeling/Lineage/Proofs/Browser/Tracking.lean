import Mathlib
import Lineage.Proofs.Browser.Run

/-! What ties a browser's state to the effects in flight. Generations count up, so that an effect is
known by its own; the server's and the selection's current effects are the only ones whose generation
is not an older one. Each part of the state that was asked for is loading while its current effect is
in flight, and afterwards shows what that effect gave. All this holds until a counter wraps around. -/

namespace Lineage.Browser

theorem lt_add_one {g n : UInt64} (hn : n.toNat + 1 < UInt64.size) (h : g ≤ n) : g < n + 1 := by
  have hle := UInt64.le_iff_toNat_le.1 h
  rw [UInt64.lt_iff_toNat_lt, UInt64.toNat_add, UInt64.toNat_one, Nat.mod_eq_of_lt hn]
  omega

theorem toNat_add_one_le {n : UInt64} {bound : Nat} (h : n.toNat + 1 ≤ bound) :
    (n + 1).toNat ≤ bound := by
  rw [UInt64.toNat_add, UInt64.toNat_one]
  exact (Nat.mod_le _ _).trans h

/-- How often a counter may have been raised. -/
def ticks (events : List Event) : Nat := events.countP Event.isTick

theorem ticks_cons (event : Event) (events : List Event) :
    ticks (event :: events) = ticks events + if event.isTick then 1 else 0 :=
  List.countP_cons

theorem ticks_le_cons (event : Event) (events : List Event) :
    ticks events ≤ ticks (event :: events) := by
  rw [ticks_cons]
  omega

theorem ticks_le_length (trace : Trace) : ticks trace.events ≤ trace.length :=
  List.countP_le_length.trans_eq (List.length_map _)

/-- Of a generation before the current one. -/
def Effect.IsOlder (s : State) : Effect → Prop
  | .fetchRefs _ generation => generation < s.refsGeneration
  | .walkHistory _ _ generation => generation < s.historyGeneration

/-- The effect that gives the server's refs. -/
def State.fetch? (s : State) : Option Effect :=
  s.server.map fun server => .fetchRefs server s.refsGeneration

/-- The effect that gives the selection's history. -/
def State.walk? (s : State) : Option Effect :=
  s.server.bind fun server => s.selected.map fun hash => .walkHistory server hash s.historyGeneration

/-- Loading while the effect is in flight, and afterwards what was reported for it. -/
def Progress {α β : Type} (flight : List Effect) (events : List Event) (effect : Effect)
    (report : β → Event) (view : β → Loadable α) (value : Loadable α) : Prop :=
  (value = .loading ∧ effect ∈ flight) ∨ ∃ result, report result ∈ events ∧ value = view result

structure Tracked (events : List Event) (started flight : List Effect) (s : State) : Prop where
  refsBound : s.refsGeneration.toNat ≤ ticks events
  historyBound : s.historyGeneration.toNat ≤ ticks events
  known : ∀ effect ∈ started, effect.IsOlder s ∨ s.fetch? = some effect ∨ s.walk? = some effect
  distinct : started.Nodup
  unserved : s.server = none → s.refs = .idle ∧ s.selected = none
  unselected : s.selected = none → s.history = .idle
  refs : ∀ server, s.server = some server →
    Progress flight events (.fetchRefs server s.refsGeneration)
      (.listed server s.refsGeneration) .ofListing s.refs
  history : ∀ server hash, s.server = some server → s.selected = some hash →
    Progress flight events (.walkHistory server hash s.historyGeneration)
      (.walked server hash s.historyGeneration) .ofHistory s.history

section

variable {events : List Event} {started flight rest removed : List Effect} {s : State}
variable {server : Url} {hash : String} {effect : Effect} {event : Event}

namespace Progress

variable {α β : Type} {report : β → Event} {view : β → Loadable α} {value : Loadable α}

/-- Other effects may come back in the meantime. -/
theorem skip (h : Progress flight events effect report view value)
    (taken : flight.Perm (removed ++ rest)) (kept : effect ∉ removed) (event : Event) :
    Progress rest (event :: events) effect report view value := by
  rcases h with ⟨hvalue, hmem⟩ | ⟨result, hmem, hvalue⟩
  · exact .inl ⟨hvalue, (List.mem_append.1 (taken.mem_iff.1 hmem)).resolve_left kept⟩
  · exact .inr ⟨result, List.mem_cons_of_mem _ hmem, hvalue⟩

theorem append (h : Progress flight events effect report view value) (more : List Effect) :
    Progress (flight ++ more) events effect report view value :=
  h.imp_left fun ⟨hvalue, hmem⟩ => ⟨hvalue, List.mem_append_left _ hmem⟩

end Progress

theorem fetch?_eq_some {generation : UInt64} :
    s.fetch? = some (.fetchRefs server generation) ↔
      s.server = some server ∧ s.refsGeneration = generation := by
  simp [State.fetch?]

theorem walk?_eq_some {generation : UInt64} :
    s.walk? = some (.walkHistory server hash generation) ↔
      s.server = some server ∧ s.selected = some hash ∧ s.historyGeneration = generation := by
  simp [State.walk?, Option.bind_eq_some_iff]

theorem fetch?_ne_walk {generation : UInt64} :
    s.fetch? ≠ some (.walkHistory server hash generation) := by
  simp [State.fetch?]

theorem walk?_ne_fetch {generation : UInt64} : s.walk? ≠ some (.fetchRefs server generation) := by
  simp [State.walk?, Option.bind_eq_some_iff]

namespace Tracked

theorem initial (preferred : Option String) : Tracked [] [] [] (.initial preferred) where
  refsBound := Nat.zero_le _
  historyBound := Nat.zero_le _
  known _ h := absurd h List.not_mem_nil
  distinct := .nil
  unserved _ := ⟨rfl, rfl⟩
  unselected _ := rfl
  refs _ h := by simp [State.initial] at h
  history _ _ h := by simp [State.initial] at h

/-- A fetch that was started gives the server's refs unless its generation is an older one. -/
theorem server_of_fetch (h : Tracked events started flight s)
    (hmem : .fetchRefs server s.refsGeneration ∈ started) : s.server = some server := by
  rcases h.known _ hmem with hold | hfetch | hwalk
  · exact absurd hold (UInt64.lt_irrefl _)
  · exact (fetch?_eq_some.1 hfetch).1
  · exact absurd hwalk walk?_ne_fetch

theorem selected_of_walk (h : Tracked events started flight s)
    (hmem : .walkHistory server hash s.historyGeneration ∈ started) :
    s.server = some server ∧ s.selected = some hash := by
  rcases h.known _ hmem with hold | hfetch | hwalk
  · exact absurd hold (UInt64.lt_irrefl _)
  · exact absurd hfetch fetch?_ne_walk
  · exact ⟨(walk?_eq_some.1 hwalk).1, (walk?_eq_some.1 hwalk).2.1⟩

/-- An event that changes nothing: a command without a server, or an answer that is not current. -/
theorem skip (h : Tracked events started flight s)
    (taken : flight.Perm (event.completed.toList ++ rest))
    (fetch : ∀ effect, s.fetch? = some effect → effect ∉ event.completed.toList)
    (walk : ∀ effect, s.walk? = some effect → effect ∉ event.completed.toList) :
    Tracked (event :: events) started rest s where
  refsBound := h.refsBound.trans (ticks_le_cons _ events)
  historyBound := h.historyBound.trans (ticks_le_cons _ events)
  known := h.known
  distinct := h.distinct
  unserved := h.unserved
  unselected := h.unselected
  refs server hs := (h.refs server hs).skip taken (fetch _ (fetch?_eq_some.2 ⟨hs, rfl⟩)) event
  history server hash hs hh :=
    (h.history server hash hs hh).skip taken (walk _ (walk?_eq_some.2 ⟨hs, hh, rfl⟩)) event

theorem showRefs (h : Tracked events started flight s) (hserver : s.server = some server)
    (taken : flight.Perm ([.fetchRefs server s.refsGeneration] ++ rest))
    (answer : Except RequestError RefSet) :
    Tracked (.listed server s.refsGeneration answer :: events) started rest
      (s.withRefs (.ofListing answer)) where
  refsBound := h.refsBound.trans (ticks_le_cons _ events)
  historyBound := h.historyBound.trans (ticks_le_cons _ events)
  known := h.known
  distinct := h.distinct
  unserved hs := nomatch hserver.symm.trans hs
  unselected := h.unselected
  refs other hs := by
    obtain rfl : server = other := Option.some.inj (hserver.symm.trans hs)
    exact .inr ⟨answer, List.mem_cons_self, rfl⟩
  history other hash hs hh := (h.history other hash hs hh).skip taken (by simp) _

theorem showHistory (h : Tracked events started flight s) (hserver : s.server = some server)
    (hselected : s.selected = some hash)
    (taken : flight.Perm ([.walkHistory server hash s.historyGeneration] ++ rest)) (history : History) :
    Tracked (.walked server hash s.historyGeneration history :: events) started rest
      (s.withHistory (.ofHistory history)) where
  refsBound := h.refsBound.trans (ticks_le_cons _ events)
  historyBound := h.historyBound.trans (ticks_le_cons _ events)
  known := h.known
  distinct := h.distinct
  unserved hs := nomatch hserver.symm.trans hs
  unselected hs := nomatch hselected.symm.trans hs
  refs other hs := (h.refs other hs).skip taken (by simp) _
  history other hash' hs hh := by
    obtain rfl : server = other := Option.some.inj (hserver.symm.trans hs)
    obtain rfl : hash = hash' := Option.some.inj (hselected.symm.trans hh)
    exact .inr ⟨history, List.mem_cons_self, rfl⟩

/-- A selection makes every walk before it an older one. -/
theorem known_picked (h : Tracked events started flight s)
    (short : s.historyGeneration.toNat + 1 < UInt64.size) (hash : String) (hmem : effect ∈ started) :
    effect.IsOlder (s.picked hash) ∨ (s.picked hash).fetch? = some effect := by
  rcases h.known effect hmem with hold | hfetch | hwalk
  · cases effect with
    | fetchRefs => exact .inl hold
    | walkHistory => exact .inl (lt_add_one short (UInt64.le_of_lt hold))
  · exact .inr hfetch
  · cases effect with
    | fetchRefs => exact absurd hwalk walk?_ne_fetch
    | walkHistory =>
        obtain ⟨-, -, rfl⟩ := walk?_eq_some.1 hwalk
        exact .inl (lt_add_one short (UInt64.le_refl _))

/-- A new server makes every effect before it an older one. -/
theorem known_opened (h : Tracked events started flight s)
    (refsShort : s.refsGeneration.toNat + 1 < UInt64.size)
    (historyShort : s.historyGeneration.toNat + 1 < UInt64.size) (server : Url)
    (hmem : effect ∈ started) : effect.IsOlder (s.opened server) := by
  cases effect with
  | fetchRefs other generation =>
      rcases h.known _ hmem with hold | hfetch | hwalk
      · exact lt_add_one refsShort (UInt64.le_of_lt hold)
      · obtain ⟨-, rfl⟩ := fetch?_eq_some.1 hfetch
        exact lt_add_one refsShort (UInt64.le_refl _)
      · exact absurd hwalk walk?_ne_fetch
  | walkHistory other hash generation =>
      rcases h.known _ hmem with hold | hfetch | hwalk
      · exact lt_add_one historyShort (UInt64.le_of_lt hold)
      · exact absurd hfetch fetch?_ne_walk
      · obtain ⟨-, -, rfl⟩ := walk?_eq_some.1 hwalk
        exact lt_add_one historyShort (UInt64.le_refl _)

theorem pick (h : Tracked events started flight s) (hserver : s.server = some server) (hash : String)
    (room : s.historyGeneration.toNat + 1 ≤ ticks events) (short : ticks events < UInt64.size) :
    Tracked events (.walkHistory server hash (s.historyGeneration + 1) :: started)
      (flight ++ [.walkHistory server hash (s.historyGeneration + 1)]) (s.picked hash) where
  refsBound := h.refsBound
  historyBound := toNat_add_one_le room
  known effect hmem := by
    rcases List.mem_cons.1 hmem with rfl | hmem
    · exact .inr (.inr (walk?_eq_some.2 ⟨hserver, rfl, rfl⟩))
    · exact (h.known_picked (room.trans_lt short) hash hmem).imp_right .inl
  distinct := by
    refine List.nodup_cons.2 ⟨fun hmem => ?_, h.distinct⟩
    rcases h.known_picked (room.trans_lt short) hash hmem with hold | hfetch
    · exact UInt64.lt_irrefl _ hold
    · exact fetch?_ne_walk hfetch
  unserved hs := by simp [State.picked, hserver] at hs
  unselected hs := by simp [State.picked] at hs
  refs other hs := (h.refs other hs).append _
  history other hash' hs hh := by
    obtain rfl : server = other := Option.some.inj (hserver.symm.trans hs)
    obtain rfl : hash = hash' := Option.some.inj hh
    exact .inl ⟨rfl, List.mem_append_right _ (List.mem_singleton_self _)⟩

theorem openServer (h : Tracked events started flight s) (server : Url)
    (refsRoom : s.refsGeneration.toNat + 1 ≤ ticks events)
    (historyRoom : s.historyGeneration.toNat + 1 ≤ ticks events) (short : ticks events < UInt64.size) :
    Tracked events (.fetchRefs server (s.refsGeneration + 1) :: started)
      (flight ++ [.fetchRefs server (s.refsGeneration + 1)]) (s.opened server) where
  refsBound := toNat_add_one_le refsRoom
  historyBound := toNat_add_one_le historyRoom
  known effect hmem := by
    rcases List.mem_cons.1 hmem with rfl | hmem
    · exact .inr (.inl rfl)
    · exact .inl (h.known_opened (refsRoom.trans_lt short) (historyRoom.trans_lt short) server hmem)
  distinct := by
    refine List.nodup_cons.2 ⟨fun hmem => ?_, h.distinct⟩
    exact UInt64.lt_irrefl _
      (h.known_opened (refsRoom.trans_lt short) (historyRoom.trans_lt short) server hmem)
  unserved hs := by simp [State.opened] at hs
  unselected _ := rfl
  refs other hs := by
    obtain rfl : server = other := Option.some.inj hs
    exact .inl ⟨rfl, List.mem_append_right _ (List.mem_singleton_self _)⟩
  history _ _ _ hh := by simp [State.opened] at hh

/-- What one event preserves. -/
theorem step (h : Tracked events started flight s) (known : ∀ effect ∈ flight, effect ∈ started)
    (taken : flight.Perm (event.completed.toList ++ rest))
    (short : ticks (event :: events) < UInt64.size) :
    Tracked (event :: events) ((s.reduce event.action).2 ++ started)
      (rest ++ (s.reduce event.action).2) (s.reduce event.action).1 := by
  have room (hevent : event.isTick = true) : ticks events + 1 ≤ ticks (event :: events) := by
    rw [ticks_cons, if_pos hevent]
  have back (effect : Effect) (hc : event.completed = some effect) : effect ∈ started :=
    known effect (taken.mem_iff.2 (by simp [hc]))
  -- A current answer is in `started`, so that `known` ties it to the server and the selection of now.
  have hchange := s.change event
  generalize s.reduce event.action = next at hchange ⊢
  cases hchange with
  | opened server =>
      have skipped := h.skip taken (by simp [Event.completed]) (by simp [Event.completed])
      exact skipped.openServer server ((Nat.succ_le_succ h.refsBound).trans (room rfl))
        ((Nat.succ_le_succ h.historyBound).trans (room rfl)) short
  | unserved hash =>
      rw [List.append_nil]
      exact h.skip taken (by simp [Event.completed]) (by simp [Event.completed])
  | picked hash hserver =>
      have skipped := h.skip taken (by simp [Event.completed]) (by simp [Event.completed])
      exact skipped.pick hserver hash ((Nat.succ_le_succ h.historyBound).trans (room rfl)) short
  | staleRefs server answer hg =>
      rw [List.append_nil]
      refine h.skip taken (fun effect hf hmem => ?_) (fun effect hw hmem => ?_)
      · obtain rfl := List.mem_singleton.1 hmem
        exact hg (fetch?_eq_some.1 hf).2.symm
      · obtain rfl := List.mem_singleton.1 hmem
        exact walk?_ne_fetch hw
  | refs server answer =>
      rw [List.append_nil]
      exact h.showRefs (h.server_of_fetch (back _ rfl)) taken answer
  | @defaulted other hash server answer hother =>
      have shown := h.showRefs (h.server_of_fetch (back _ rfl)) taken answer
      exact shown.pick hother hash ((Nat.succ_le_succ h.historyBound).trans (room rfl)) short
  | staleHistory server hash history hg =>
      rw [List.append_nil]
      refine h.skip taken (fun effect hf hmem => ?_) (fun effect hw hmem => ?_)
      · obtain rfl := List.mem_singleton.1 hmem
        exact fetch?_ne_walk hf
      · obtain rfl := List.mem_singleton.1 hmem
        exact hg (walk?_eq_some.1 hw).2.2.symm
  | history server hash history =>
      obtain ⟨hserver, hselected⟩ := h.selected_of_walk (back _ rfl)
      rw [List.append_nil]
      exact h.showHistory hserver hselected taken history

end Tracked

end

/-- What a whole run preserves, as long as no counter can have wrapped around. -/
theorem Run.tracked {client : Client} {maxDepth : Nat} {preferred : Option String} {trace : Trace}
    {b : Browser} (run : Run client maxDepth preferred trace b)
    (short : ticks trace.events < UInt64.size) :
    Tracked trace.events trace.started b.inFlight b.state := by
  induction run with
  | start => exact .initial preferred
  | @step trace b run event rest taken _ ih =>
      have before : ticks trace.events < UInt64.size := (ticks_le_cons event _).trans_lt short
      exact (ih before).step (fun _ => run.mem_started_of_inFlight) taken short

end Lineage.Browser
