import Mathlib
import Lineage.Proofs.Transfer.Schedule
import Lineage.Settings.Store

/-! Attempts counted and pauses added within the range of the machine. Attempts are made here as before,
but each number has to fit into a word and each length into a duration, or all stops at once. Main
statement: with any settings that can be stored this makes no difference, but for one number of retries,
the greatest there is, which has no successor. -/

namespace Lineage

/-- The number, if a word can hold it. -/
def word? (n : Nat) : Option Nat := if n < UInt64.size then some n else none

/-- The exact sum, if there is a duration so long. -/
def Duration.add? (a b : Duration) : Option Duration :=
  if h : a.nanoseconds + b.nanoseconds ≤ maxNanoseconds then some ⟨_, h⟩ else none

theorem Duration.add?_of_le {a b : Duration} (h : a.nanoseconds + b.nanoseconds ≤ maxNanoseconds) :
    a.add? b = some (a.add b) := by
  rw [add?, dif_pos h]
  exact congrArg some (ext_nanoseconds (Nat.min_eq_left h).symm)

/-- No more than a quarter is drawn, for which there is room. -/
theorem add_jitter_le {delay : Duration} {jitter : Nat}
    (room : delay.nanoseconds * 5 ≤ maxNanoseconds * 4) (drawn : jitter ≤ maxJitter delay) :
    delay.nanoseconds + jitter * 1000000 ≤ maxNanoseconds := by
  have hquarter := maxJitter_le delay
  omega

theorem add?_ofMilliseconds {delay : Duration} (room : delay.nanoseconds * 5 ≤ maxNanoseconds * 4)
    (jitter : Fin (maxJitter delay + 1)) :
    delay.add? (.ofMilliseconds jitter) = some (withJitter delay jitter) := by
  have hlength : (Duration.ofMilliseconds jitter).nanoseconds ≤ jitter.val * 1000000 := Nat.min_le_left _ _
  have hsum := add_jitter_le room (Nat.le_of_lt_succ jitter.isLt)
  exact Duration.add?_of_le (by omega)

theorem word?_of_lt {n : Nat} (h : n < UInt64.size) : word? n = some n := if_pos h

section

variable {m : Type → Type} [Monad m]

/-- What is in range, or a stop. -/
def inRange {α : Type} (value : Option α) : OptionT m α := OptionT.mk (pure value)

/-- Attempts as `retryFrom` makes them, each of them numbered from one. -/
def checkedRetryFrom (net : Network m) (policy : RetryPolicy) (once : m Outcome) :
    (left attempt : Nat) → OptionT m Outcome
  | 0, attempt => do
    let _ ← inRange (word? (attempt + 1))
    OptionT.lift once
  | left + 1, attempt => do
    let next ← inRange (word? (attempt + 1))
    let outcome ← OptionT.lift once
    if outcome.isRetriable then do
      let delay := policy.delayAfter attempt
      let jitter ← OptionT.lift (net.draw (maxJitter delay))
      let length ← inRange (delay.add? (.ofMilliseconds jitter))
      OptionT.lift (net.pause length)
      checkedRetryFrom net policy once left next
    else pure outcome

/-- The attempts that there may be are counted before the first one. -/
def checkedSend (net : Network m) (policy : RetryPolicy) (once : m Outcome) : OptionT m Outcome := do
  let _ ← inRange (word? (policy.maxRetries + 1))
  checkedRetryFrom net policy once policy.maxRetries 0

variable [LawfulMonad m] {net : Network m} {policy : RetryPolicy} {once : m Outcome}

theorem run_inRange_some {α β : Type} (a : α) (f : α → OptionT m β) :
    (inRange (some a) >>= f).run = (f a).run := by
  simp [inRange]

theorem run_inRange_none {α β : Type} (f : α → OptionT m β) :
    (inRange none >>= f).run = pure none := by
  simp [inRange]

theorem run_lift_bind {α β : Type} (x : m α) (f : α → OptionT m β) :
    (OptionT.lift x >>= f).run = x >>= fun a => (f a).run := by
  simp

/-- Without a number or a length out of range the attempts are what they were. -/
theorem run_checkedRetryFrom (room : ∀ i, (policy.delayAfter i).nanoseconds * 5 ≤ maxNanoseconds * 4)
    {left attempt : Nat} (fits : attempt + left + 1 < UInt64.size) :
    (checkedRetryFrom net policy once left attempt).run =
      some <$> retryFrom net policy once left attempt := by
  induction left generalizing attempt with
  | zero =>
      rw [checkedRetryFrom, word?_of_lt (by omega), run_inRange_some, retryFrom, OptionT.run_lift,
        bind_pure_comp]
  | succ left ih =>
      rw [checkedRetryFrom, word?_of_lt (by omega), run_inRange_some, run_lift_bind, retryFrom, map_bind]
      refine bind_congr fun outcome => ?_
      split
      · dsimp only
        rw [run_lift_bind, map_bind]
        refine bind_congr fun jitter => ?_
        rw [add?_ofMilliseconds (room attempt) jitter, run_inRange_some, run_lift_bind, map_bind]
        refine bind_congr fun _ => ?_
        exact ih (by omega)
      · simp

theorem run_checkedSend (room : ∀ i, (policy.delayAfter i).nanoseconds * 5 ≤ maxNanoseconds * 4) :
    (checkedSend net policy once).run = if policy.maxRetries + 1 < UInt64.size then
      some <$> sendWithRetry net policy once else pure none := by
  rw [checkedSend, sendWithRetry]
  split
  · rename_i hfits
    rw [word?_of_lt hfits, run_inRange_some]
    exact run_checkedRetryFrom room (by omega)
  · rename_i hover
    rw [word?, if_neg hover, run_inRange_none]

end

namespace Settings

/-- The first pause is a second, if there is any. -/
theorem seconds_baseDelay (s : Settings) : s.retryPolicy.baseDelay.seconds < 2 ^ 31 := by
  have hsecond : (Duration.ofSeconds 1).seconds < 2 ^ 31 := by decide
  rw [retryPolicy]
  split
  · decide
  · exact hsecond

theorem succ_maxRetries_lt_iff (s : Settings) :
    s.retryPolicy.maxRetries + 1 < UInt64.size ↔ s.maxRetries ≠ 18446744073709551615 := by
  have hlt := s.maxRetries.toNat_lt
  have hlast : (18446744073709551615 : UInt64).toNat = 18446744073709551615 := rfl
  rw [maxRetries_retryPolicy, Ne, ← UInt64.toNat_inj, hlast, UInt64.size]
  omega

end Settings

/-- For every file of settings, and whatever comes of the attempts. -/
theorem retries_in_range_iff {m : Type → Type} [Monad m] [LawfulMonad m] (store : SettingsStore)
    (net : Network m) (once : m Outcome) :
    let policy := store.load.retryPolicy
    (policy.maxRetries + 1 < UInt64.size ↔ store.load.maxRetries ≠ 18446744073709551615) ∧
      (∀ attempt, ∀ jitter ≤ maxJitter (policy.delayAfter attempt),
        (policy.delayAfter attempt).nanoseconds + jitter * 1000000 ≤ maxNanoseconds) ∧
      (checkedSend net policy once).run =
        if store.load.maxRetries = 18446744073709551615 then pure none
        else some <$> sendWithRetry net policy once := by
  intro policy
  have hroom (attempt : Nat) : (policy.delayAfter attempt).nanoseconds * 5 ≤ maxNanoseconds * 4 :=
    RetryPolicy.delayAfter_room store.load.seconds_baseDelay attempt
  refine ⟨store.load.succ_maxRetries_lt_iff, fun attempt _ => add_jitter_le (hroom attempt), ?_⟩
  rw [run_checkedSend hroom]
  simp only [policy, store.load.succ_maxRetries_lt_iff, ne_eq, ite_not]

/-- A file whose number of retries ends with this digit. With a five it is the last that a word can hold. -/
def retriesFile (last : String) : String := "\x7b\"maxRetries\":1844674407370955161" ++ last ++ "\x7d"

/-- The greatest number of retries in range, of which two are made. -/
theorem retries_in_range_but_for_one :
    ∃ (store : SettingsStore) (w : World) (request : Request),
      store.content? = some (retriesFile "4") ∧ store.load.maxRetries = 18446744073709551614 ∧
      ((checkedSend w.network store.load.retryPolicy (w.network.exchange request)).run []).1 =
        some (busyThenUp 2) := by
  let store : SettingsStore := ⟨"cfg", .present (.text (retriesFile "4"))⟩
  let w : World := ⟨fun _ _ => .failed .closed, fun _ bound => Fin.last bound, fun _ => "first"⟩
  let url : Url := ⟨.http, [], none, .ipv6 [0, 0, 0, 0, 0, 0, 0, 1], some 80, [[]]⟩
  let request : Request := ⟨url, "agent", "first", "session"⟩
  let net := (w.scripted busyThenUp).network
  have hload : store.load = { Settings.default with maxRetries := 18446744073709551614 } := by rfl
  have hpolicy : store.load.retryPolicy = .upTo 18446744073709551614 := by rw [hload]; decide
  have hchecked := (retries_in_range_iff store net (net.exchange request)).2.2
  rw [if_neg (by rw [hload]; decide)] at hchecked
  have hsends :
      ((sendWithRetry net store.load.retryPolicy (net.exchange request)).run []).1 = busyThenUp 2 := by
    rw [hpolicy]
    exact rfl
  refine ⟨store, w.scripted busyThenUp, request, rfl, by rw [hload], ?_⟩
  rw [hchecked]
  exact congrArg some hsends

/-- The settings are accepted, and the attempts cannot be counted: nothing is asked for at all. -/
theorem retries_out_of_range :
    ∃ store : SettingsStore, store.content? = some (retriesFile "5") ∧
      Settings.parse? (retriesFile "5") = some store.load ∧
      store.load.retryPolicy.maxRetries + 1 = 2 ^ 64 ∧ ¬2 ^ 64 < UInt64.size ∧
      ∀ (w : World) (request : Request) (done : Deeds),
        (checkedSend w.network store.load.retryPolicy (w.network.exchange request)).run done =
          (none, done) := by
  let store : SettingsStore := ⟨"cfg", .present (.text (retriesFile "5"))⟩
  have hload : store.load = { Settings.default with maxRetries := 18446744073709551615 } := by rfl
  have hpolicy : store.load.retryPolicy = .upTo 18446744073709551615 := by rw [hload]; decide
  refine ⟨store, rfl, by rw [hload]; rfl, by rw [hpolicy]; rfl, by decide, fun w request done => ?_⟩
  rw [hpolicy]
  rfl

end Lineage
