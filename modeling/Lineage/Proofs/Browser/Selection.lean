import Mathlib
import Lineage.Proofs.Browser.Loading

/-! What a browser ends in when no further command comes. Effects are completed in any order, and the
last selection is the one shown. A ref's name is looked up when it is selected. Main statement: a
selection by name shows the ref's history exactly if the listing was there when it was made, or the
ref points at its own name; before that the name is taken for a hash. -/

namespace Lineage

namespace Browser

/-- The server's listing succeeds, and these are its refs. -/
def Event.Lists (server : Url) (refs : RefSet) : Event → Prop
  | .listed other _ answer => other = server → answer = .ok refs
  | _ => True

instance (server : Url) (refs : RefSet) : DecidablePred (Event.Lists server refs)
  | .setServer _ | .select _ | .walked .. => isTrue trivial
  | .listed other _ answer => inferInstanceAs (Decidable (other = server → answer = .ok refs))

/-- The hash is selected, and what is shown is the history that was walked from it. -/
def Shows (trace : Trace) (s : State) (hash : String) : Prop :=
  s.selected = some hash ∧ ∃ server history, s.server = some server ∧
    .walked server hash s.historyGeneration history ∈ trace.events ∧ history.start = hash ∧
    s.history = .ofHistory history

/-- What a selection by name or hash leaves in a trace. -/
def selection (b : Browser) (nameOrHash : String) : Entry :=
  ⟨.select (b.state.resolve nameOrHash), (b.state.select (b.state.resolve nameOrHash)).2⟩

/-- On from a browser with completions only, of any effects in flight. -/
inductive Completes (b : Browser) : Trace → Browser → Prop
  | stop : Completes b [] b
  | step {later : Trace} {c : Browser} (before : Completes b later c) (event : Event)
      (rest : List Effect) (completion : event.isCommand = false)
      (taken : c.inFlight.Perm (event.completed.toList ++ rest)) (honest : event.Honest) :
      Completes b (⟨event, (c.state.reduce event.action).2⟩ :: later)
        ({ c with inFlight := rest }.dispatch event.action)

namespace Trace

variable (later earlier : Trace)

theorem commands_append : commands (later ++ earlier) = later.commands ++ earlier.commands := by
  rw [commands, events, List.map_append, List.filter_append]
  rfl

theorem events_append : events (later ++ earlier) = later.events ++ earlier.events :=
  List.map_append

end Trace

section

variable {client : Client} {maxDepth : Nat} {preferred : Option String} {trace later : Trace}
variable {b c : Browser}

theorem Completes.commands (completes : Completes b later c) : later.commands = [] := by
  induction completes with
  | stop => rfl
  | step _ event rest completion _ _ ih =>
      rw [Trace.commands_cons, if_neg (by simp [completion]), ih]

theorem Run.completes (run : Run client maxDepth preferred trace b)
    (completes : Completes b later c) : Run client maxDepth preferred (later ++ trace) c := by
  induction completes with
  | stop => exact run
  | step _ event rest _ taken honest ih => exact ih.step event rest taken honest

/-- A command waits for nothing. -/
theorem Run.command (run : Run client maxDepth preferred trace b) (event : Event)
    (command : event.isCommand = true) :
    Run client maxDepth preferred (⟨event, (b.state.reduce event.action).2⟩ :: trace)
      (b.dispatch event.action) := by
  have hnone : event.completed = none := by
    cases event with
    | setServer | select => rfl
    | listed | walked => cases command
  have honest : event.Honest := by
    cases event with
    | setServer | select => trivial
    | listed | walked => cases command
  exact run.step event b.inFlight (by rw [hnone]; rfl) honest

theorem Run.selected_of_choice (run : Run client maxDepth preferred trace b)
    (short : ticks trace.events < UInt64.size) {server : Url} (served : b.state.server = some server)
    {hash : String} (choice : lastChoice trace.commands = some hash) :
    b.state.selected = some hash := by
  rw [run.selected_eq short served, choice, Option.some_or]

theorem Run.shows (run : Run client maxDepth preferred trace b)
    (short : ticks trace.events < UInt64.size) {server : Url} (served : b.state.server = some server)
    {hash : String} (selected : b.state.selected = some hash)
    (settled : b.state.isSettled = true) : Shows trace b.state hash := by
  refine ⟨selected, ?_⟩
  rcases (run.tracked short).history server hash served selected with
    ⟨hload, -⟩ | ⟨history, hmem, hhistory⟩
  · rw [State.isSettled, hload] at settled
    simp [Loadable.isLoading] at settled
  · exact ⟨server, history, served, hmem, run.honest hmem, hhistory⟩

/-- What a ref's name means: its hash from the moment the listing is there. -/
theorem Run.resolve_name (run : Run client maxDepth preferred trace b)
    (short : ticks trace.events < UInt64.size) {server : Url} (served : b.state.server = some server)
    {refs : RefSet} (lists : ∀ event ∈ trace.events, event.Lists server refs) {r : Ref}
    (mem : r ∈ refs.toList) :
    b.state.resolve r.name = if b.state.refs.isLoading then r.name else r.hash := by
  rcases (run.tracked short).refs server served with ⟨hload, -⟩ | ⟨answer, hmem, hrefs⟩
  · rw [State.resolve, hload]
    rfl
  · have hanswer : answer = .ok refs := lists _ hmem rfl
    rw [State.resolve, hrefs, hanswer]
    exact RefSet.resolve_name mem

theorem Run.select (run : Run client maxDepth preferred trace b) (nameOrHash : String) :
    Run client maxDepth preferred (b.selection nameOrHash :: trace) (b.select nameOrHash) :=
  run.command _ rfl

theorem Completes.commands_selection (trace : Trace) {nameOrHash : String}
    (completes : Completes (b.select nameOrHash) later c) :
    Trace.commands (later ++ b.selection nameOrHash :: trace) =
      .select (b.state.resolve nameOrHash) :: trace.commands := by
  rw [Trace.commands_append, completes.commands, Trace.commands_cons]
  rfl

/-- The last selection is the one that is shown in the end. -/
theorem Run.shows_resolved (run : Run client maxDepth preferred trace b)
    (short : trace.commands.length + 1 < 2 ^ 63) {server : Url}
    (served : b.state.server = some server) (nameOrHash : String)
    (completes : Completes (b.select nameOrHash) later c) (settled : c.state.isSettled = true) :
    Shows (later ++ b.selection nameOrHash :: trace) c.state (b.state.resolve nameOrHash) := by
  have whole := (run.select nameOrHash).completes completes
  have hcommands := completes.commands_selection trace
  have few := whole.ticks_lt (by rw [hcommands]; exact short)
  have hserved : c.state.server = some server := by
    rw [whole.server_eq, hcommands, ← served, run.server_eq]
    rfl
  have hselected : c.state.selected = some (b.state.resolve nameOrHash) :=
    whole.selected_of_choice few hserved (by rw [hcommands]; rfl)
  exact whole.shows few hserved hselected settled

/-- Provided that it is the last command, in any order of completion. -/
theorem select_by_name_iff (run : Run client maxDepth preferred trace b)
    (short : trace.commands.length + 1 < 2 ^ 63) {server : Url}
    (served : b.state.server = some server) {refs : RefSet} {r : Ref} (mem : r ∈ refs.toList)
    (completes : Completes (b.select r.name) later c) (inFlight : c.inFlight = [])
    (lists : ∀ event ∈ Trace.events (later ++ b.selection r.name :: trace), event.Lists server refs) :
    Shows (later ++ b.selection r.name :: trace) c.state
        (if b.state.refs.isLoading then r.name else r.hash) ∧
      (Shows (later ++ b.selection r.name :: trace) c.state r.hash ↔
        b.state.refs.isLoading = false ∨ r.name = r.hash) := by
  have whole := (run.select r.name).completes completes
  have hcommands := completes.commands_selection trace
  have few := whole.ticks_lt (by rw [hcommands]; exact short)
  have hresolve : b.state.resolve r.name = if b.state.refs.isLoading then r.name else r.hash := by
    refine run.resolve_name (run.ticks_lt (by omega)) served (fun event hmem => lists event ?_) mem
    rw [Trace.events_append]
    exact List.mem_append_right _ (List.mem_cons_of_mem _ hmem)
  have hshows := run.shows_resolved short served r.name completes
    (whole.isSettled_of_inFlight few inFlight)
  rw [hresolve] at hshows
  refine ⟨hshows, fun h => ?_, fun h => ?_⟩
  · have hsame : r.hash = if b.state.refs.isLoading then r.name else r.hash :=
      Option.some.inj (h.1.symm.trans hshows.1)
    cases hload : b.state.refs.isLoading with
    | false => exact .inl rfl
    | true =>
        rw [hload, if_pos rfl] at hsame
        exact .inr hsame.symm
  · have hsame : (if b.state.refs.isLoading then r.name else r.hash) = r.hash := by
      rcases h with hload | hname
      · rw [hload]
        rfl
      · rw [hname, ite_self]
    exact hsame ▸ hshows

/-- The listing was there, and the walk for its default ref answers last. -/
theorem select_by_name_iff_after_listing :
    ∃ trace b later c refs r, Run plainClient 1 none trace b ∧ trace.commands.length + 1 < 2 ^ 63 ∧
      b.state.server = some (localServer 80) ∧ r ∈ refs.toList ∧
      Completes (b.select r.name) later c ∧ c.inFlight = [] ∧
      (∀ event ∈ Trace.events (later ++ b.selection r.name :: trace),
        event.Lists (localServer 80) refs) ∧
      b.state.refs.isLoading = false ∧ r = ⟨"main", "a"⟩ ∧
      Shows (later ++ b.selection r.name :: trace) c.state r.hash := by
  let refs : RefSet := .ofList [⟨"main", "a"⟩, ⟨"dev", "b"⟩]
  let b : Browser := ⟨plainClient, 1, ⟨some (localServer 80), .ready refs, some "b", .loading, none, 1, 2⟩,
    [.walkHistory (localServer 80) "b" 2]⟩
  have run : Run plainClient 1 none _ b := .step
    (.step .start (.setServer (localServer 80)) [] .nil trivial)
    (.listed (localServer 80) 1 (.ok refs)) [] (.refl _) trivial
  have completes := (Completes.stop : Completes (b.select "main") [] (b.select "main"))
    |>.step (.walked (localServer 80) "a" 3 ⟨"a", [.bare "a"], .root⟩)
      [.walkHistory (localServer 80) "b" 2] rfl (.swap ..) rfl
    |>.step (.walked (localServer 80) "b" 2 ⟨"b", [.bare "b"], .root⟩) [] rfl (.refl _) rfl
  have mem : ⟨"main", "a"⟩ ∈ refs.toList := by decide
  have whole := (select_by_name_iff run (by decide) rfl mem completes rfl (by decide)).2
  exact ⟨_, b, _, _, refs, ⟨"main", "a"⟩, run, by decide, rfl, mem, completes, rfl, by decide, rfl, rfl,
    whole.2 (.inl rfl)⟩

/-- The name is selected before the listing comes, and stays a hash of nothing. -/
theorem select_by_name_fails_before_listing :
    ∃ trace b later c refs r, Run plainClient 1 none trace b ∧ trace.commands.length + 1 < 2 ^ 63 ∧
      b.state.server = some (localServer 80) ∧ r ∈ refs.toList ∧
      Completes (b.select r.name) later c ∧ c.inFlight = [] ∧
      (∀ event ∈ Trace.events (later ++ b.selection r.name :: trace),
        event.Lists (localServer 80) refs) ∧
      c.state.refs = .ready refs ∧ c.state.selected = some r.name ∧ r.name ≠ r.hash ∧
      ¬Shows (later ++ b.selection r.name :: trace) c.state r.hash := by
  let refs : RefSet := .ofList [⟨"main", "a"⟩]
  let b : Browser := ⟨plainClient, 1, ⟨some (localServer 80), .loading, none, .idle, none, 1, 1⟩,
    [.fetchRefs (localServer 80) 1]⟩
  have run : Run plainClient 1 none _ b := .step .start (.setServer (localServer 80)) [] .nil trivial
  have completes := (Completes.stop : Completes (b.select "main") [] (b.select "main"))
    |>.step (.listed (localServer 80) 1 (.ok refs)) [.walkHistory (localServer 80) "main" 2] rfl
      (.refl _) trivial
    |>.step (.walked (localServer 80) "main" 2 ⟨"main", [], .missing "main"⟩) [] rfl (.refl _) rfl
  have distinct : some "main" ≠ some "a" := by decide
  exact ⟨_, b, _, _, refs, ⟨"main", "a"⟩, run, by decide, rfl, by decide, completes, rfl, by decide, rfl, rfl,
    by decide, fun shows => distinct shows.1⟩

end

end Browser

end Lineage
