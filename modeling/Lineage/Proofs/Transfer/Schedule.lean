import Mathlib
import Lineage.Proofs.Transfer.Attempts

/-! Attempts whose outcomes are laid down in advance. They go on up to the first outcome that is final or
up to the last retry, with a pause between any two of them. Main statement: the log of all attempts and
pauses, the number of attempts, and how far each pause may be from the one that was due. -/

namespace Lineage

namespace Outcome

/-- A success, a status other than the few that may change, or a fault that will not pass. -/
def IsFinal : Outcome → Prop
  | .failed fault => fault.isTransient = false
  | .answered reply => reply.isSuccess = true ∨ reply.status ∉ [408, 429, 502, 503, 504]

theorem isFinal_iff {outcome : Outcome} : outcome.IsFinal ↔ outcome.isRetriable = false := by
  cases outcome with
  | failed fault => exact Iff.rfl
  | answered reply =>
      rw [IsFinal, isRetriable, Bool.and_eq_false_iff, Bool.not_eq_false']
      simp [Reply.isTransientStatus, and_assoc]

theorem isRetriable_of_not_isFinal {outcome : Outcome} (h : ¬outcome.IsFinal) :
    outcome.isRetriable = true := by
  rw [isFinal_iff, Bool.not_eq_false] at h
  exact h

end Outcome

open Classical in
/-- The number of the first final outcome; without one there is no bound. -/
noncomputable def firstFinal (outcomes : Nat → Outcome) : ENat :=
  if h : ∃ i, (outcomes i).IsFinal then Nat.find h else ⊤

/-- Attempts end with the first final outcome or the last retry, whichever is earlier. -/
theorem exists_last (outcomes : Nat → Outcome) (retries : Nat) :
    ∃ last : Nat, (last : ENat) = min (retries : ENat) (firstFinal outcomes) ∧ last ≤ retries ∧
      (∀ i < last, ¬(outcomes i).IsFinal) ∧ (¬(outcomes last).IsFinal → last = retries) := by
  classical
  by_cases h : ∃ i, (outcomes i).IsFinal
  · have hfirst : firstFinal outcomes = (Nat.find h : ENat) := dif_pos h
    refine ⟨min retries (Nat.find h), ?_, Nat.min_le_left _ _, fun i hi => ?_, fun hlast => ?_⟩
    · rw [hfirst]
      exact (Nat.mono_cast (α := ENat)).map_min
    · exact Nat.find_min h (hi.trans_le (Nat.min_le_right _ _))
    · rcases Nat.le_total retries (Nat.find h) with hle | hle
      · exact Nat.min_eq_left hle
      · rw [Nat.min_eq_right hle] at hlast
        exact absurd (Nat.find_spec h) hlast
  · have hfirst : firstFinal outcomes = ⊤ := dif_neg h
    refine ⟨retries, ?_, Nat.le_refl _, fun i _ hi => h ⟨i, hi⟩, fun _ => rfl⟩
    rw [hfirst, min_eq_left le_top]

/-! Pauses. -/

/-- A pause that lasts as long as it has to, and at most a quarter longer. It is the exact sum. -/
structure Jittered (delay length : Duration) : Prop where
  sum : ∃ jitter ≤ maxJitter delay, length.nanoseconds = delay.nanoseconds + jitter * 1000000
  le : delay ≤ length
  quarter : 4 * length.nanoseconds ≤ 5 * delay.nanoseconds

theorem maxJitter_le (delay : Duration) : maxJitter delay * 1000000 * 4 ≤ delay.nanoseconds := by
  have hms : maxJitter delay ≤ delay.milliseconds / 4 := Nat.min_le_left _ _
  rw [Duration.milliseconds] at hms
  omega

theorem withJitter_jittered {delay : Duration} (room : delay.nanoseconds * 5 ≤ maxNanoseconds * 4)
    (jitter : Fin (maxJitter delay + 1)) : Jittered delay (withJitter delay jitter) := by
  have hjitter : jitter.val ≤ maxJitter delay := Nat.le_of_lt_succ jitter.isLt
  have hquarter := maxJitter_le delay
  have hmax := delay.le_max
  have hsum : (withJitter delay jitter).nanoseconds = delay.nanoseconds + jitter.val * 1000000 := by
    rw [withJitter, Duration.nanoseconds_add, Duration.ofMilliseconds, Duration.ofNanoseconds]
    dsimp only
    omega
  refine ⟨⟨jitter.val, hjitter, hsum⟩, ?_, ?_⟩
  · change delay.nanoseconds ≤ (withJitter delay jitter).nanoseconds
    omega
  · omega

namespace RetryPolicy

theorem factor_le (attempt : Nat) : factor attempt ≤ maxFactor := by
  rw [factor]
  split
  · rename_i h
    calc Nat.pow 2 (attempt % UInt32.size) ≤ Nat.pow 2 31 := Nat.pow_le_pow_right (by decide) (by omega)
      _ ≤ maxFactor := by decide
  · exact Nat.le_refl _

/-- The greatest factor leaves room for the jitter. -/
theorem delayAfter_room {policy : RetryPolicy} (short : policy.baseDelay.seconds < 2 ^ 31)
    (attempt : Nat) : (policy.delayAfter attempt).nanoseconds * 5 ≤ maxNanoseconds * 4 := by
  have hbase : policy.baseDelay.nanoseconds < 2 ^ 31 * 1000000000 := by
    rw [Duration.seconds] at short
    omega
  have hdelay : (policy.delayAfter attempt).nanoseconds ≤ policy.baseDelay.nanoseconds * factor attempt :=
    Nat.min_le_left _ _
  have hproduct : policy.baseDelay.nanoseconds * factor attempt ≤ 2 ^ 31 * 1000000000 * maxFactor :=
    Nat.mul_le_mul (Nat.le_of_lt hbase) (factor_le attempt)
  have hroom : 2 ^ 31 * 1000000000 * maxFactor * 5 ≤ maxNanoseconds * 4 := by decide
  omega

end RetryPolicy

/-! The course of the attempts. -/

def Deed.pause? : Deed → Option Duration
  | .asked .. => none
  | .paused length => some length

def Deeds.pauses (deeds : Deeds) : List Duration := deeds.filterMap Deed.pause?

namespace World

/-- The same world, in which the attempts come out as laid down. -/
def scripted (w : World) (outcomes : Nat → Outcome) : World :=
  { w with reply := fun done _ => outcomes done.outcomes.length }

variable (w : World) (policy : RetryPolicy) (request : Request) (outcomes : Nat → Outcome)

/-- What comes of a request, and all that is done about it. -/
def sends : Outcome × Deeds :=
  let net := (w.scripted outcomes).network
  (sendWithRetry net policy (net.exchange request)).run []

/-- What is done before an attempt of this number. -/
def before : Nat → Deeds
  | 0 => []
  | i + 1 =>
    let asked := before i ++ [.asked request (outcomes i)]
    asked ++ [.paused (w.pauseAfter policy i asked)]

/-- The pause after an attempt of this number. -/
def pause (i : Nat) : Duration :=
  w.pauseAfter policy i (w.before policy request outcomes i ++ [.asked request (outcomes i)])

theorem before_succ (i : Nat) :
    w.before policy request outcomes (i + 1) = w.before policy request outcomes i ++
      [.asked request (outcomes i), .paused (w.pause policy request outcomes i)] := by
  rw [before, List.append_assoc]
  rfl

theorem before_eq_flatMap (i : Nat) :
    w.before policy request outcomes i =
      (List.range i).flatMap fun j =>
        [.asked request (outcomes j), .paused (w.pause policy request outcomes j)] := by
  induction i with
  | zero => rfl
  | succ i ih => rw [before_succ, ih, List.range_succ, List.flatMap_append, List.flatMap_singleton]

theorem length_outcomes_before (i : Nat) : (w.before policy request outcomes i).outcomes.length = i := by
  induction i with
  | zero => rfl
  | succ i ih =>
      rw [before_succ, Deeds.outcomes_append, List.length_append]
      exact congrArg Nat.succ ih

theorem reply_before (i : Nat) :
    (w.scripted outcomes).reply (w.before policy request outcomes i) request = outcomes i :=
  congrArg outcomes (w.length_outcomes_before policy request outcomes i)

/-- As long as nothing final has come, the attempts go on as if they began with the next one. -/
theorem sends_eq_retryFrom {i : Nat} (le : i ≤ policy.maxRetries)
    (again : ∀ j < i, ¬(outcomes j).IsFinal) :
    w.sends policy request outcomes =
      (retryFrom (w.scripted outcomes).network policy ((w.scripted outcomes).network.exchange request)
        (policy.maxRetries - i) i).run (w.before policy request outcomes i) := by
  induction i with
  | zero => rfl
  | succ i ih =>
      have hleft : policy.maxRetries - i = policy.maxRetries - (i + 1) + 1 := by omega
      have hreply := w.reply_before policy request outcomes i
      have hretriable := Outcome.isRetriable_of_not_isFinal (again i (Nat.lt_succ_self i))
      rw [ih (Nat.le_of_succ_le le) (fun j hj => again j (Nat.lt_succ_of_lt hj)), hleft,
        retryFrom_again _ i _ (hreply ▸ hretriable), hreply, before_succ]
      rfl

theorem pause_jittered {policy : RetryPolicy} (short : policy.baseDelay.seconds < 2 ^ 31) (i : Nat) :
    Jittered (policy.delayAfter i) (w.pause policy request outcomes i) :=
  withJitter_jittered (RetryPolicy.delayAfter_room short i) _

end World

/-- For every policy, every sequence of outcomes, and whatever jitter is drawn. -/
theorem attempts_end_with_first_final (w : World) (policy : RetryPolicy) (request : Request)
    (outcomes : Nat → Outcome) (short : policy.baseDelay.seconds < 2 ^ 31) :
    ∃ (last : Nat) (pauses : Nat → Duration) (log : Deeds),
      w.sends policy request outcomes = (outcomes last, log) ∧
      (last : ENat) = min (policy.maxRetries : ENat) (firstFinal outcomes) ∧
      log.outcomes.length = 1 + last ∧
      log = (List.range last).flatMap (fun i => [.asked request (outcomes i), .paused (pauses i)]) ++
        [.asked request (outcomes last)] ∧
      ∀ i < last, Jittered (policy.delayAfter i) (pauses i) := by
  obtain ⟨last, hlast, hle, hagain, hstop⟩ := exists_last outcomes policy.maxRetries
  have hreply := w.reply_before policy request outcomes last
  have hfinal : (outcomes last).isRetriable = true → policy.maxRetries - last = 0 := by
    intro hretriable
    have hnot : ¬(outcomes last).IsFinal := by
      rw [Outcome.isFinal_iff, hretriable]
      exact Bool.noConfusion
    have hend := hstop hnot
    omega
  have hrun := w.sends_eq_retryFrom policy request outcomes hle hagain
  rw [retryFrom_last _ last _ (hreply ▸ hfinal), hreply] at hrun
  refine ⟨last, w.pause policy request outcomes, _, hrun, hlast, ?_, ?_, fun i _ => ?_⟩
  · rw [Deeds.outcomes_append, List.length_append, Nat.add_comm]
    exact congrArg (1 + ·) (w.length_outcomes_before policy request outcomes last)
  · rw [w.before_eq_flatMap]
  · exact w.pause_jittered request outcomes short i

/-- A busy server, a refused connection, and then an answer. -/
def busyThenUp : Nat → Outcome
  | 0 => .answered ⟨503, none, .ok []⟩
  | 1 => .failed .refused
  | _ => .answered ⟨200, none, .ok []⟩

theorem firstFinal_busyThenUp : firstFinal busyThenUp = (2 : Nat) := by
  classical
  have hfinal : (busyThenUp 2).IsFinal := .inl rfl
  have h : ∃ i, (busyThenUp i).IsFinal := ⟨2, hfinal⟩
  have hfind : Nat.find h = 2 := by
    rw [Nat.find_eq_iff]
    refine ⟨hfinal, fun i hi => ?_⟩
    rw [Outcome.isFinal_iff]
    interval_cases i <;> decide
  rw [← hfind]
  exact dif_pos h

/-- The longest pauses there can be, of five retries that are left to begin with. -/
theorem attempts_end_with_first_final_at_third :
    ∃ (w : World) (policy : RetryPolicy) (request : Request) (log : Deeds),
      policy.baseDelay.seconds < 2 ^ 31 ∧ policy.maxRetries = 5 ∧
      firstFinal busyThenUp = (2 : Nat) ∧ w.sends policy request busyThenUp = (busyThenUp 2, log) ∧
      log = [.asked request (busyThenUp 0), .paused (.ofMilliseconds 1250),
        .asked request (busyThenUp 1), .paused (.ofMilliseconds 2500), .asked request (busyThenUp 2)] ∧
      Jittered (policy.delayAfter 0) (.ofMilliseconds 1250) ∧
      Jittered (policy.delayAfter 1) (.ofMilliseconds 2500) := by
  let w : World := ⟨fun _ _ => .failed .closed, fun _ bound => Fin.last bound, fun _ => "first"⟩
  let url : Url := ⟨.http, [], none, .ipv6 [0, 0, 0, 0, 0, 0, 0, 1], some 80, [[]]⟩
  let request : Request := ⟨url, "agent", "first", "session"⟩
  have short : (RetryPolicy.upTo 5).baseDelay.seconds < 2 ^ 31 := by decide
  obtain ⟨last, pauses, log, hrun, hlast, -, hlog, hpauses⟩ :=
    attempts_end_with_first_final w (.upTo 5) request busyThenUp short
  have hmin : min ((RetryPolicy.upTo 5).maxRetries : ENat) (2 : Nat) = (2 : Nat) :=
    min_eq_right (Nat.cast_le.2 (by decide))
  rw [firstFinal_busyThenUp, hmin] at hlast
  obtain rfl : last = 2 := Nat.cast_injective hlast
  have hlengths : Deeds.pauses (w.sends (.upTo 5) request busyThenUp).2 =
      [.ofMilliseconds 1250, .ofMilliseconds 2500] := by
    decide +kernel
  rw [hrun, hlog] at hlengths
  have hfirst : pauses 0 = .ofMilliseconds 1250 := (List.cons.inj hlengths).1
  have hsecond : pauses 1 = .ofMilliseconds 2500 :=
    (List.cons.inj (List.cons.inj hlengths).2).1
  have hdeeds : log = [.asked request (busyThenUp 0), .paused (pauses 0),
      .asked request (busyThenUp 1), .paused (pauses 1), .asked request (busyThenUp 2)] := hlog
  refine ⟨w, _, request, log, short, rfl, firstFinal_busyThenUp, hrun, ?_, ?_, ?_⟩
  · rw [hdeeds, hfirst, hsecond]
  · exact hfirst ▸ hpauses 0 (by decide)
  · exact hsecond ▸ hpauses 1 (by decide)

end Lineage
