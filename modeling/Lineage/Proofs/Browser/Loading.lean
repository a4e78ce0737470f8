import Mathlib
import Lineage.Proofs.Browser.Confluence
import Lineage.Proofs.RefSet.Lookup

/-! What is loading is waited for with reason. The refs are loading exactly while the one fetch of the
current generation is in flight, and the history while the one walk of the current generation is; a
listing that has a default ref is never shown without a selection. Main statement: a browser neither
hangs, as it has settled once nothing is in flight, nor settles between a listing and the walk that
the listing starts. -/

namespace Lineage

namespace Loadable

variable {α : Type} {value : Loadable α}

theorem isLoading_iff : value.isLoading = true ↔ value = .loading := by
  cases value <;> simp [isLoading]

theorem isShown_of_ne (idle : value ≠ .idle) (loading : value ≠ .loading) : value.IsShown := by
  cases value with
  | idle => exact absurd rfl idle
  | loading => exact absurd rfl loading
  | ready result => exact .inl ⟨result, rfl⟩
  | failed error => exact .inr ⟨error, rfl⟩

end Loadable

namespace Browser

namespace Effect

def isFetchOf (generation : UInt64) : Effect → Bool
  | .fetchRefs _ g => g == generation
  | .walkHistory .. => false

def isWalkOf (generation : UInt64) : Effect → Bool
  | .fetchRefs .. => false
  | .walkHistory _ _ g => g == generation

end Effect

/-- What is loading is what the effects in flight will bring. -/
structure Attended (b : Browser) : Prop where
  refs_loading : b.inFlight.countP (Effect.isFetchOf b.state.refsGeneration) =
    if b.state.refs.isLoading then 1 else 0
  history_loading : b.inFlight.countP (Effect.isWalkOf b.state.historyGeneration) =
    if b.state.history.isLoading then 1 else 0
  refs_idle : b.state.refs = .idle ↔ b.state.server = none
  history_idle : b.state.history = .idle ↔ b.state.selected = none
  selected : ∀ refs, b.state.refs = .ready refs → refs.isEmpty = false → b.state.selected ≠ none
  settled : b.inFlight = [] → b.state.isSettled = true
  shown : b.state.isSettled = true →
    ∀ refs, b.state.refs = .ready refs → refs.isEmpty = false → b.state.history.IsShown

theorem countP_eq_of_unique {α : Type} [DecidableEq α] {l : List α} {p : α → Bool} {a : α}
    (distinct : l.Nodup) (only : ∀ x ∈ l, p x = true ↔ x = a) :
    l.countP p = if a ∈ l then 1 else 0 := by
  have hcount : l.countP p = l.count a :=
    List.countP_congr fun x hx => (only x hx).trans beq_iff_eq.symm
  rw [hcount, distinct.count]

namespace Progress

variable {α β : Type} {flight : List Effect} {events : List Event} {effect : Effect}
variable {report : β → Event} {view : β → Loadable α} {value : Loadable α}

theorem ne_idle (h : Progress flight events effect report view value)
    (shows : ∀ result, (view result).IsShown) : value ≠ .idle := by
  rintro rfl
  rcases h with ⟨hload, -⟩ | ⟨result, -, hview⟩
  · cases hload
  · exact Loadable.not_isShown_idle (hview ▸ shows result)

theorem isLoading_iff (h : Progress flight events effect report view value)
    (shows : ∀ result, (view result).IsShown)
    (pending : effect ∈ flight → ∀ result, report result ∉ events) :
    value.isLoading = true ↔ effect ∈ flight := by
  rw [Loadable.isLoading_iff]
  constructor
  · rintro rfl
    rcases h with ⟨-, hmem⟩ | ⟨result, -, hview⟩
    · exact hmem
    · exact absurd (hview ▸ shows result) Loadable.not_isShown_loading
  · intro hmem
    rcases h with ⟨hload, -⟩ | ⟨result, hreport, -⟩
    · exact hload
    · exact absurd hreport (pending hmem result)

end Progress

section

variable {client : Client} {maxDepth : Nat} {preferred : Option String} {trace : Trace} {b : Browser}

theorem Run.inFlight_nodup (run : Run client maxDepth preferred trace b)
    (short : ticks trace.events < UInt64.size) : b.inFlight.Nodup :=
  (List.nodup_append.1 (run.conserved.nodup_iff.1 (run.tracked short).distinct)).1

/-- No answer to an effect in flight has come yet. -/
theorem Run.pending (run : Run client maxDepth preferred trace b)
    (short : ticks trace.events < UInt64.size) {effect : Effect} (h : effect ∈ b.inFlight)
    {event : Event} (answers : event.completed = some effect) : event ∉ trace.events := by
  intro hevent
  have hcompleted : effect ∈ trace.completed := List.mem_filterMap.2 ⟨event, hevent, answers⟩
  have hnodup := run.conserved.nodup_iff.1 (run.tracked short).distinct
  exact (List.nodup_append.1 hnodup).2.2 effect h effect hcompleted rfl

/-- What is waited for is loading while its one effect is in flight. -/
theorem Run.countP_inFlight (run : Run client maxDepth preferred trace b)
    (short : ticks trace.events < UInt64.size) {α β : Type} {effect : Effect} {report : β → Event}
    {view : β → Loadable α} {value : Loadable α} {p : Effect → Bool}
    (progress : Progress b.inFlight trace.events effect report view value)
    (shows : ∀ result, (view result).IsShown)
    (answers : ∀ result, (report result).completed = some effect)
    (only : ∀ other ∈ b.inFlight, p other = true ↔ other = effect) :
    b.inFlight.countP p = if value.isLoading then 1 else 0 := by
  have hload := progress.isLoading_iff shows fun hmem result =>
    run.pending short hmem (answers result)
  rw [countP_eq_of_unique (run.inFlight_nodup short) only]
  exact if_congr hload.symm rfl rfl

theorem Run.countP_fetch (run : Run client maxDepth preferred trace b)
    (short : ticks trace.events < UInt64.size) :
    b.inFlight.countP (Effect.isFetchOf b.state.refsGeneration) =
      if b.state.refs.isLoading then 1 else 0 := by
  have tracked := run.tracked short
  -- A fetch of the current generation asks the current server.
  have known {effect : Effect} (hmem : effect ∈ b.inFlight)
      (hfetch : effect.isFetchOf b.state.refsGeneration = true) :
      ∃ server, b.state.server = some server ∧ effect = .fetchRefs server b.state.refsGeneration := by
    cases effect with
    | walkHistory => cases hfetch
    | fetchRefs server generation =>
        obtain rfl : generation = b.state.refsGeneration := beq_iff_eq.1 hfetch
        exact ⟨server, tracked.server_of_fetch (run.mem_started_of_inFlight hmem), rfl⟩
  cases hserver : b.state.server with
  | none =>
      rw [(tracked.unserved hserver).1]
      refine List.countP_eq_zero.2 fun effect hmem hfetch => ?_
      obtain ⟨server, hsome, -⟩ := known hmem hfetch
      exact nomatch hserver.symm.trans hsome
  | some server =>
      refine run.countP_inFlight short (tracked.refs server hserver) Loadable.ofListing_isShown
        (fun _ => rfl) fun effect hmem => ⟨fun hfetch => ?_, ?_⟩
      · obtain ⟨other, hsome, heffect⟩ := known hmem hfetch
        obtain rfl : server = other := Option.some.inj (hserver.symm.trans hsome)
        exact heffect
      · rintro rfl
        exact beq_self_eq_true _

theorem Run.countP_walk (run : Run client maxDepth preferred trace b)
    (short : ticks trace.events < UInt64.size) :
    b.inFlight.countP (Effect.isWalkOf b.state.historyGeneration) =
      if b.state.history.isLoading then 1 else 0 := by
  have tracked := run.tracked short
  have known {effect : Effect} (hmem : effect ∈ b.inFlight)
      (hwalk : effect.isWalkOf b.state.historyGeneration = true) :
      ∃ server hash, b.state.server = some server ∧ b.state.selected = some hash ∧
        effect = .walkHistory server hash b.state.historyGeneration := by
    cases effect with
    | fetchRefs => cases hwalk
    | walkHistory server hash generation =>
        obtain rfl : generation = b.state.historyGeneration := beq_iff_eq.1 hwalk
        obtain ⟨hserver, hselected⟩ :=
          tracked.selected_of_walk (run.mem_started_of_inFlight hmem)
        exact ⟨server, hash, hserver, hselected, rfl⟩
  cases hselected : b.state.selected with
  | none =>
      rw [tracked.unselected hselected]
      refine List.countP_eq_zero.2 fun effect hmem hwalk => ?_
      obtain ⟨-, hash, -, hsome, -⟩ := known hmem hwalk
      exact nomatch hselected.symm.trans hsome
  | some hash =>
      obtain ⟨server, hserver⟩ : ∃ server, b.state.server = some server :=
        Option.ne_none_iff_exists'.1 fun hnone =>
          nomatch hselected.symm.trans (tracked.unserved hnone).2
      refine run.countP_inFlight short (tracked.history server hash hserver hselected)
        Loadable.ofHistory_isShown (fun _ => rfl) fun effect hmem => ⟨fun hwalk => ?_, ?_⟩
      · obtain ⟨other, hash', hsome, hsome', heffect⟩ := known hmem hwalk
        obtain rfl : server = other := Option.some.inj (hserver.symm.trans hsome)
        obtain rfl : hash = hash' := Option.some.inj (hselected.symm.trans hsome')
        exact heffect
      · rintro rfl
        exact beq_self_eq_true _

namespace Tracked

variable {events : List Event} {started flight : List Effect} {s : State}

theorem refs_idle_iff (h : Tracked events started flight s) : s.refs = .idle ↔ s.server = none := by
  constructor
  · intro hidle
    by_contra hsome
    obtain ⟨server, hserver⟩ := Option.ne_none_iff_exists'.1 hsome
    exact (h.refs server hserver).ne_idle Loadable.ofListing_isShown hidle
  · intro hnone
    exact (h.unserved hnone).1

theorem history_idle_iff (h : Tracked events started flight s) :
    s.history = .idle ↔ s.selected = none := by
  refine ⟨fun hidle => ?_, h.unselected⟩
  by_contra hsome
  obtain ⟨hash, hselected⟩ := Option.ne_none_iff_exists'.1 hsome
  obtain ⟨server, hserver⟩ : ∃ server, s.server = some server :=
    Option.ne_none_iff_exists'.1 fun hnone => hsome (h.unserved hnone).2
  exact (h.history server hash hserver hselected).ne_idle Loadable.ofHistory_isShown hidle

end Tracked

/-- Refs that are shown have made a selection, if none was made before. -/
theorem Run.selected_of_refs (run : Run client maxDepth preferred trace b)
    (short : ticks trace.events < UInt64.size) {refs : RefSet} (h : b.state.refs = .ready refs)
    (listed : refs.isEmpty = false) : b.state.selected ≠ none := by
  have tracked := run.tracked short
  obtain ⟨server, hserver⟩ : ∃ server, b.state.server = some server := by
    refine Option.ne_none_iff_exists'.1 fun hnone => ?_
    have hidle := (tracked.unserved hnone).1
    rw [h] at hidle
    cases hidle
  have hselected := run.selected_eq short hserver
  rw [h] at hselected
  intro hnone
  obtain ⟨-, hdefault⟩ := Option.or_eq_none_iff.1 (hselected.symm.trans hnone)
  exact RefSet.default?_ne_none preferred listed (Option.map_eq_none_iff.1 hdefault)

theorem Run.isSettled_of_inFlight (run : Run client maxDepth preferred trace b)
    (short : ticks trace.events < UInt64.size) (h : b.inFlight = []) :
    b.state.isSettled = true := by
  have tracked := run.tracked short
  rw [h] at tracked
  exact tracked.isSettled

/-- In any order of completion, and with any number of effects in flight. -/
theorem loading_is_attended (run : Run client maxDepth preferred trace b)
    (short : trace.length < UInt64.size) : Attended b := by
  have few := (ticks_le_length trace).trans_lt short
  have tracked := run.tracked few
  refine ⟨run.countP_fetch few, run.countP_walk few, tracked.refs_idle_iff,
    tracked.history_idle_iff, fun _ => run.selected_of_refs few, run.isSettled_of_inFlight few, ?_⟩
  intro settled refs hrefs listed
  have hselected := run.selected_of_refs few hrefs listed
  refine Loadable.isShown_of_ne (fun hidle => hselected (tracked.history_idle_iff.1 hidle)) ?_
  intro hload
  rw [State.isSettled, hload] at settled
  simp [Loadable.isLoading] at settled

/-- The listing that counts has come and started a walk, while another listing is still to come. -/
theorem loading_is_attended_between_listing_and_walk :
    ∃ trace b, Run plainClient 1 none trace b ∧ trace.length < UInt64.size ∧ Attended b ∧
      b.state.refs = .ready (.ofList [⟨"main", "a"⟩]) ∧ b.state.isSettled = false ∧
      b.inFlight = [.fetchRefs (localServer 80) 1, .walkHistory (localServer 81) "a" 3] := by
  have run := (Run.start : Run plainClient 1 none [] (.start plainClient 1 none))
    |>.step (.setServer (localServer 80)) [] .nil trivial
    |>.step (.setServer (localServer 81)) [.fetchRefs (localServer 80) 1] (.refl _) trivial
    |>.step (.listed (localServer 81) 2 (.ok (.ofList [⟨"main", "a"⟩])))
      [.fetchRefs (localServer 80) 1] (.swap ..) trivial
  exact ⟨_, _, run, by decide, loading_is_attended run (by decide), rfl, rfl, rfl⟩

end

end Browser

end Lineage
