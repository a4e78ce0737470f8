import Mathlib
import Lineage.Proofs.Browser.Tracking

/-! Generations under arbitrary actions, also under results that no effect was started for. Main
statement: an effect carries the generation that its counter has just been raised to, so that the
generations of either kind of effect ascend, and a result of another generation than the current one
changes nothing. This holds until a counter wraps around. -/

namespace Lineage.Browser

inductive Counter
  | refs
  | history
  deriving DecidableEq

def Counter.value : Counter → State → UInt64
  | .refs, s => s.refsGeneration
  | .history, s => s.historyGeneration

/-- The generation of an effect that the counter counts. -/
def Effect.tag? : Counter → Effect → Option UInt64
  | .refs, .fetchRefs _ generation => some generation
  | .history, .walkHistory _ _ generation => some generation
  | _, _ => none

/-- What a result says it belongs to. -/
def Action.tag? : Action → Option (Counter × UInt64)
  | .refsLoaded generation _ | .refsFailed generation _ => some (.refs, generation)
  | .historyLoaded generation _ | .historyFailed generation _ => some (.history, generation)
  | .setServer _ | .select _ => none

/-- The effect works on what the state has selected, and the state waits for it. -/
def Effect.IsCurrent (s : State) : Effect → Prop
  | .fetchRefs server generation =>
    s.server = some server ∧ s.refs = .loading ∧ generation = s.refsGeneration
  | .walkHistory server hash generation =>
    s.server = some server ∧ s.selected = some hash ∧ s.history = .loading ∧
      generation = s.historyGeneration

namespace State

/-- All that an action can do to a state, and the effects that it starts. -/
inductive Move (s : State) : Action → State × List Effect → Prop
  | opened (server : Url) :
      Move s (.setServer server) (s.opened server, [.fetchRefs server (s.refsGeneration + 1)])
  /-- By hand, or along with a listing. -/
  | picked {action : Action} {server : Url} (hash : String) (refs : Loadable RefSet)
      (stays : ∀ other, action ≠ .setServer other) (h : s.server = some server) :
      Move s action ((s.withRefs refs).picked hash, [.walkHistory server hash (s.historyGeneration + 1)])
  | shown {action : Action} (refs : Loadable RefSet) (history : Loadable History)
      (stays : ∀ other, action ≠ .setServer other) :
      Move s action ((s.withRefs refs).withHistory history, [])

theorem move_select {s : State} {action : Action} (hash : String) (refs : Loadable RefSet)
    (stays : ∀ other, action ≠ .setServer other) : Move s action ((s.withRefs refs).select hash) := by
  cases hserver : s.server with
  | none =>
      rw [select_of_none (s := s.withRefs refs) hserver]
      exact .shown refs s.history stays
  | some server =>
      rw [select_of_server (s := s.withRefs refs) hserver]
      exact .picked hash refs stays hserver

theorem move (s : State) (action : Action) : Move s action (s.reduce action) := by
  by_cases stays : ∀ other, action ≠ .setServer other
  · cases action with
    | setServer server => exact absurd rfl (stays server)
    | select hash => exact move_select hash s.refs stays
    | refsLoaded generation refs =>
        rw [reduce]
        split
        · rw [listed]
          split
          · exact move_select _ (.ready refs) stays
          · exact .shown (.ready refs) s.history stays
        · exact .shown s.refs s.history stays
    | refsFailed generation error =>
        rw [reduce]
        split
        · exact .shown (.failed error) s.history stays
        · exact .shown s.refs s.history stays
    | historyLoaded generation history =>
        rw [reduce]
        split
        · exact .shown s.refs (.ready history) stays
        · exact .shown s.refs s.history stays
    | historyFailed generation error =>
        rw [reduce]
        split
        · exact .shown s.refs (.failed error) stays
        · exact .shown s.refs s.history stays
  · obtain ⟨server, hserver⟩ := not_forall_not.1 stays
    rw [hserver]
    exact .opened server

/-- A result of another generation changes nothing. -/
theorem reduce_of_ne {s : State} {action : Action} {counter : Counter} {generation : UInt64}
    (h : action.tag? = some (counter, generation)) (hne : generation ≠ counter.value s) :
    s.reduce action = (s, []) := by
  cases action <;> cases h <;> exact if_neg hne

end State

/-- How the counter goes on in one step, and the generations that are given out in it. A change of
server raises the counter of the walks without one. -/
inductive Advance (n : UInt64) : List UInt64 → UInt64 → Prop
  | kept : Advance n [] n
  | passed : Advance n [] (n + 1)
  | given : Advance n [n + 1] (n + 1)

namespace Advance

variable {n next : UInt64} {tags : List UInt64}

theorem toNat_le (h : Advance n tags next) : next.toNat ≤ n.toNat + 1 := by
  cases h with
  | kept => exact Nat.le_succ _
  | passed => exact toNat_add_one_le (Nat.le_refl _)
  | given => exact toNat_add_one_le (Nat.le_refl _)

theorem le (h : Advance n tags next) (room : n.toNat + 1 < UInt64.size) : n ≤ next := by
  have hlt : n < n + 1 := lt_add_one room (UInt64.le_refl n)
  cases h with
  | kept => exact UInt64.le_refl n
  | passed => exact UInt64.le_of_lt hlt
  | given => exact UInt64.le_of_lt hlt

theorem tags_cases (h : Advance n tags next) (room : n.toNat + 1 < UInt64.size) :
    tags = [] ∨ tags = [next] ∧ n < next := by
  cases h with
  | kept => exact .inl rfl
  | passed => exact .inl rfl
  | given => exact .inr ⟨rfl, lt_add_one room (UInt64.le_refl n)⟩

end Advance

namespace State.Move

variable {s : State} {action : Action} {next : State × List Effect}

theorem advance (h : Move s action next) (counter : Counter) :
    Advance (counter.value s) (next.2.filterMap (Effect.tag? counter)) (counter.value next.1) := by
  cases h with
  | opened server =>
      cases counter with
      | refs => exact .given
      | history => exact .passed
  | picked hash refs _ _ =>
      cases counter with
      | refs => exact .kept
      | history => exact .given
  | shown refs history _ => cases counter <;> exact .kept

theorem length_le (h : Move s action next) : next.2.length ≤ 1 := by
  cases h with
  | opened => exact Nat.le_refl 1
  | picked => exact Nat.le_refl 1
  | shown => exact Nat.zero_le 1

theorem isCurrent (h : Move s action next) {effect : Effect} (hmem : effect ∈ next.2) :
    effect.IsCurrent next.1 := by
  cases h with
  | opened server =>
      obtain rfl := List.mem_singleton.1 hmem
      exact ⟨rfl, rfl, rfl⟩
  | picked hash refs _ hserver =>
      obtain rfl := List.mem_singleton.1 hmem
      exact ⟨hserver, rfl, rfl, rfl⟩
  | shown => cases hmem

theorem server_eq (h : Move s action next) (stays : ∀ server, action ≠ .setServer server) :
    next.1.server = s.server := by
  cases h with
  | opened server => exact absurd rfl (stays server)
  | picked => rfl
  | shown => rfl

theorem preferred_eq (h : Move s action next) : next.1.preferred = s.preferred := by
  cases h <;> rfl

end State.Move

/-- One action, and what came of it. -/
structure Transition where
  before : State
  action : Action
  after : State
  started : List Effect

/-- The transitions from a state, one for each action. -/
def State.transitions (s : State) : List Action → List Transition
  | [] => []
  | action :: rest =>
    ⟨s, action, (s.reduce action).1, (s.reduce action).2⟩ :: transitions (s.reduce action).1 rest

/-- The generations that effects of one kind are started with, in their order. -/
def generations (counter : Counter) (run : List Transition) : List UInt64 :=
  (run.flatMap Transition.started).filterMap (Effect.tag? counter)

/-- The counters, the effect that is started, and the state go together. -/
structure Transition.InStep (t : Transition) : Prop where
  rising : ∀ counter : Counter, counter.value t.before ≤ counter.value t.after
  single : t.started.length ≤ 1
  current : ∀ effect ∈ t.started, effect.IsCurrent t.after
  dropped : ∀ counter generation, t.action.tag? = some (counter, generation) →
    generation ≠ counter.value t.before → t.after = t.before ∧ t.started = []
  server : (∀ server, t.action ≠ .setServer server) → t.after.server = t.before.server
  preferred : t.after.preferred = t.before.preferred

section

variable {s : State}

theorem inStep_reduce (action : Action)
    (room : ∀ counter : Counter, (counter.value s).toNat + 1 < UInt64.size) :
    Transition.InStep ⟨s, action, (s.reduce action).1, (s.reduce action).2⟩ where
  rising counter := ((s.move action).advance counter).le (room counter)
  single := (s.move action).length_le
  current _ := (s.move action).isCurrent
  dropped _ _ h hne := by
    rw [State.reduce_of_ne h hne]
    exact ⟨rfl, rfl⟩
  server := (s.move action).server_eq
  preferred := (s.move action).preferred_eq

/-- Each action raises a counter by one at most. -/
theorem room_reduce {counter : Counter} {action : Action} {rest : List Action}
    (room : (counter.value s).toNat + (action :: rest).length < UInt64.size) :
    (counter.value (s.reduce action).1).toNat + rest.length < UInt64.size := by
  have hle := ((s.move action).advance counter).toNat_le
  rw [List.length_cons] at room
  omega

/-- What every step of a run preserves. -/
theorem inStep_of_mem_transitions {actions : List Action}
    (room : ∀ counter : Counter, (counter.value s).toNat + actions.length < UInt64.size) {t : Transition}
    (hmem : t ∈ s.transitions actions) : t.InStep := by
  induction actions generalizing s with
  | nil => cases hmem
  | cons action rest ih =>
      rcases List.mem_cons.1 hmem with rfl | hrest
      · apply inStep_reduce action
        intro counter
        have hroom := room counter
        rw [List.length_cons] at hroom
        omega
      · exact ih (fun counter => room_reduce (room counter)) hrest

/-- The generations of a run lie above the counter it begins with. -/
theorem generations_ascend (counter : Counter) {actions : List Action}
    (room : (counter.value s).toNat + actions.length < UInt64.size) :
    (∀ generation ∈ generations counter (s.transitions actions), counter.value s < generation) ∧
      (generations counter (s.transitions actions)).Pairwise (· < ·) := by
  induction actions generalizing s with
  | nil => exact ⟨nofun, .nil⟩
  | cons action rest ih =>
      obtain ⟨habove, hpairwise⟩ := ih (room_reduce room)
      have hadvance := (s.move action).advance counter
      have hroom : (counter.value s).toNat + 1 < UInt64.size := by
        rw [List.length_cons] at room
        omega
      have hle := hadvance.le hroom
      have hsplit : generations counter (s.transitions (action :: rest)) =
          (s.reduce action).2.filterMap (Effect.tag? counter) ++
            generations counter ((s.reduce action).1.transitions rest) := by
        rw [generations, State.transitions, List.flatMap_cons, List.filterMap_append]
        rfl
      rw [hsplit]
      rcases hadvance.tags_cases hroom with hnone | ⟨hone, hlt⟩
      · rw [hnone, List.nil_append]
        exact ⟨fun generation hmem => UInt64.lt_of_le_of_lt hle (habove generation hmem), hpairwise⟩
      · rw [hone, List.singleton_append, List.pairwise_cons]
        refine ⟨fun generation hmem => ?_, habove, hpairwise⟩
        rcases List.mem_cons.1 hmem with rfl | hrest
        · exact hlt
        · exact UInt64.lt_of_le_of_lt hle (habove generation hrest)

theorem preferred_of_mem_transitions {actions : List Action} {t : Transition}
    (hmem : t ∈ s.transitions actions) : t.after.preferred = s.preferred := by
  induction actions generalizing s with
  | nil => cases hmem
  | cons action rest ih =>
      rcases List.mem_cons.1 hmem with rfl | hrest
      · exact (s.move action).preferred_eq
      · exact (ih hrest).trans (s.move action).preferred_eq

end

/-- Whatever the actions are. -/
theorem effects_are_tagged_in_order (preferred : Option String) (actions : List Action)
    (short : actions.length < UInt64.size) :
    let run := (State.initial preferred).transitions actions
    (∀ t ∈ run, t.InStep ∧ t.after.preferred = preferred) ∧
      ∀ counter, (generations counter run).Pairwise (· < ·) := by
  intro run
  have room (counter : Counter) :
      (counter.value (State.initial preferred)).toNat + actions.length < UInt64.size := by
    have hzero : (counter.value (State.initial preferred)).toNat = 0 := by cases counter <;> rfl
    rw [hzero, Nat.zero_add]
    exact short
  refine ⟨fun t hmem => ⟨inStep_of_mem_transitions room hmem, preferred_of_mem_transitions hmem⟩,
    fun counter => ?_⟩
  exact (generations_ascend counter (room counter)).2

/-- Results that come before there is a server, and a listing that comes twice. -/
def untimelyActions : List Action :=
  [.refsLoaded 0 (.ofList [⟨"main", "a"⟩]), .historyFailed 7 "late", .select "a",
    .setServer (localServer 80), .refsLoaded 1 (.ofList [⟨"main", "b"⟩]), .select "c",
    .refsLoaded 1 .empty]

theorem effects_are_tagged_in_order_when_untimely :
    let run := (State.initial none).transitions untimelyActions
    untimelyActions.length < UInt64.size ∧
      (∀ t ∈ run, t.InStep ∧ t.after.preferred = none) ∧
      generations .refs run = [1] ∧ generations .history run = [2, 3] ∧
      (generations .history run).Pairwise (· < ·) := by
  intro run
  have short : untimelyActions.length < UInt64.size := by decide
  obtain ⟨each, ascending⟩ := effects_are_tagged_in_order none untimelyActions short
  exact ⟨short, each, rfl, rfl, ascending .history⟩

end Lineage.Browser
