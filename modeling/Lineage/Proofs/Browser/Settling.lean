import Mathlib
import Lineage.Proofs.Browser.Selection
import Lineage.Proofs.Transfer.Steady

/-! Settling in a steady world. To settle is to complete effects one after another: it is a run like any
other, each step leaves fewer completions to come, and it ends with nothing loading. Main statement:
a browser settles in the state that its commands alone determine. -/

namespace Lineage

/-- What the browser finds on the servers. -/
def Replies.contents (replies : Replies) (agent : String) (maxDepth : Nat) : Browser.Contents where
  listing := replies.refs agent
  walk server hash := replies.history agent server maxDepth hash

namespace Browser

section

variable {contents : Contents} {effect : Effect}

theorem Contents.answer_completed : (contents.answer effect).completed = some effect := by
  cases effect <;> rfl

theorem Contents.answer_isCommand : (contents.answer effect).isCommand = false := by
  cases effect <;> rfl

theorem Contents.answer_tells : (contents.answer effect).Tells contents := by
  cases effect <;> rfl

end

theorem length_le_outstanding (flight : List Effect) : flight.length ≤ outstanding flight :=
  Nat.le_add_right _ _

theorem outstanding_le (flight : List Effect) : outstanding flight ≤ 2 * flight.length := by
  have h : flight.countP Effect.isFetch ≤ flight.length := List.countP_le_length
  rw [outstanding]
  omega

section

variable {b c d : Browser} {first second later : Trace}

theorem Completes.trans (start : Completes b first c) (rest : Completes c second d) :
    Completes b (second ++ first) d := by
  induction rest with
  | stop => exact start
  | step _ event rest completion taken honest ih => exact ih.step event rest completion taken honest

end

section

variable {w : World} {replies : Replies}

theorem honest_answer (replies : Replies) (agent : String) (maxDepth : Nat) (effect : Effect) :
    ((replies.contents agent maxDepth).answer effect).Honest := by
  cases effect with
  | fetchRefs => trivial
  | walkHistory => exact rfl

/-- An effect brings what the server holds. -/
theorem perform_gives (steady : w.Steady replies) (client : Client) (maxDepth : Nat)
    (effect : Effect) :
    Gives (perform w.network client maxDepth effect)
      ((replies.contents client.userAgent maxDepth).answer effect).action := by
  cases effect with
  | fetchRefs server generation => exact (fetchRefs_gives ⟨client, server⟩ steady).bind (.pure _)
  | walkHistory server hash generation =>
      exact (history_gives steady ⟨client, server⟩ maxDepth hash).bind (.pure _)

/-- Each step leaves fewer completions to come, so that enough steps settle the browser. -/
theorem settleIn_gives (steady : w.Steady replies) (steps : Nat) (b : Browser) :
    ∃ later c, Gives (settleIn w.network steps b) c ∧ Completes b later c ∧
      (∀ event ∈ later.events, event.Tells (replies.contents b.client.userAgent b.maxDepth)) ∧
      (outstanding b.inFlight ≤ steps → c.state.isSettled = true ∨ c.inFlight = []) := by
  let contents := replies.contents b.client.userAgent b.maxDepth
  induction steps generalizing b with
  | zero =>
      refine ⟨[], b, .pure b, .stop, List.forall_mem_nil _, fun few => .inr ?_⟩
      exact List.eq_nil_of_length_eq_zero
        (Nat.le_zero.1 ((length_le_outstanding b.inFlight).trans few))
  | succ steps ih =>
      rw [settleIn]
      cases hsettled : b.state.isSettled with
      | true => exact ⟨[], b, .pure b, .stop, List.forall_mem_nil _, fun _ => .inl hsettled⟩
      | false =>
          rw [if_neg Bool.false_ne_true]
          cases hflight : b.inFlight with
          | nil => exact ⟨[], b, .pure b, .stop, List.forall_mem_nil _, fun _ => .inr hflight⟩
          | cons effect rest =>
              let next := { b with inFlight := rest }.dispatch (contents.answer effect).action
              obtain ⟨later, c, gives, completes, tells, ends⟩ := ih next
              have start : Completes b [_] next := Completes.stop.step (contents.answer effect) rest
                Contents.answer_isCommand (by rw [hflight, Contents.answer_completed]; rfl)
                (honest_answer replies b.client.userAgent b.maxDepth effect)
              refine ⟨_, c, (perform_gives steady b.client b.maxDepth effect).bind gives,
                start.trans completes, ?_, fun few => ends ?_⟩
              · rw [Trace.events_append]
                intro event hmem
                rcases List.mem_append.1 hmem with hlater | hfirst
                · exact tells event hlater
                · obtain rfl := List.mem_singleton.1 hfirst
                  exact Contents.answer_tells
              · have hless := outstanding_answer_lt contents b.state effect rest
                exact Nat.le_of_lt_succ (hless.trans_le few)

end

section

variable {w : World} {replies : Replies} {client : Client} {maxDepth : Nat}
variable {preferred : Option String} {trace : Trace} {b : Browser}

theorem Run.client_eq (run : Run client maxDepth preferred trace b) :
    b.client = client ∧ b.maxDepth = maxDepth := by
  induction run with
  | start => exact ⟨rfl, rfl⟩
  | step _ _ _ _ _ ih => exact ih

/-- A run on servers that answer by the replies. -/
structure Faithful (replies : Replies) (client : Client) (maxDepth : Nat) (preferred : Option String)
    (trace : Trace) (b : Browser) : Prop where
  run : Run client maxDepth preferred trace b
  tells : ∀ event ∈ trace.events, event.Tells (replies.contents client.userAgent maxDepth)

namespace Faithful

theorem start (replies : Replies) (client : Client) (maxDepth : Nat) (preferred : Option String) :
    Faithful replies client maxDepth preferred [] (.start client maxDepth preferred) :=
  ⟨.start, List.forall_mem_nil _⟩

/-- A command brings no answer. -/
theorem command (h : Faithful replies client maxDepth preferred trace b) (event : Event)
    (command : event.isCommand = true) :
    Faithful replies client maxDepth preferred (⟨event, (b.state.reduce event.action).2⟩ :: trace)
      (b.dispatch event.action) := by
  refine ⟨h.run.command event command, List.forall_mem_cons.2 ⟨?_, h.tells⟩⟩
  cases event with
  | setServer | select => trivial
  | listed | walked => cases command

/-- To settle is to go on until nothing is loading. -/
theorem settle_gives (h : Faithful replies client maxDepth preferred trace b)
    (short : trace.commands.length < 2 ^ 63) (steady : w.Steady replies) :
    ∃ whole c, Gives (b.settle w.network) c ∧ Faithful replies client maxDepth preferred whole c ∧
      whole.commands = trace.commands ∧ c.state.isSettled = true := by
  obtain ⟨rfl, rfl⟩ := h.run.client_eq
  obtain ⟨later, c, gives, completes, laterTells, ends⟩ :=
    settleIn_gives steady (2 * b.inFlight.length) b
  have whole := h.run.completes completes
  have hcommands : Trace.commands (later ++ trace) = trace.commands := by
    rw [Trace.commands_append, completes.commands]
    rfl
  have wholeTells : ∀ event ∈ Trace.events (later ++ trace),
      event.Tells (replies.contents b.client.userAgent b.maxDepth) := by
    rw [Trace.events_append]
    exact List.forall_mem_append.2 ⟨laterTells, h.tells⟩
  have settled : c.state.isSettled = true := by
    rcases ends (outstanding_le b.inFlight) with hsettled | hflight
    · exact hsettled
    · exact whole.isSettled_of_inFlight (whole.ticks_lt (hcommands ▸ short)) hflight
  exact ⟨later ++ trace, c, gives, ⟨whole, wholeTells⟩, hcommands, settled⟩

/-- The commands alone determine the state, up to the count of walks. -/
theorem state_eq (h : Faithful replies client maxDepth preferred trace b)
    (short : trace.commands.length < 2 ^ 63) (settled : b.state.isSettled = true) :
    b.state.withoutCount =
      outcome (replies.contents client.userAgent maxDepth) preferred trace.commands :=
  h.run.eq_outcome short h.tells settled

end Faithful

end

end Browser

end Lineage
