import Mathlib
import Lineage.Server

/-! The attempts at a request, in any world: a log keeps what was done, and what the world does next may
depend on all of it. Attempts go on while they may pass and retries are left. Main statement: an error
that may pass is reported exactly if all retries were used up, or an answer broke off while its body
was read; such an answer ends the attempts, however many retries are left. -/

namespace Lineage

/-- What a program did, and what came of it. -/
inductive Deed
  | asked (request : Request) (outcome : Outcome)
  | paused (length : Duration)

namespace Deed

def request? : Deed → Option Request
  | .asked request _ => some request
  | .paused _ => none

def outcome? : Deed → Option Outcome
  | .asked _ outcome => some outcome
  | .paused _ => none

end Deed

/-- Oldest deed first. -/
abbrev Deeds := List Deed

namespace Deeds

def requests (deeds : Deeds) : List Request := deeds.filterMap Deed.request?

def outcomes (deeds : Deeds) : List Outcome := deeds.filterMap Deed.outcome?

variable (request : Request) (outcome : Outcome) (length : Duration) (deeds more : Deeds)

@[simp] theorem requests_asked :
    requests (.asked request outcome :: deeds) = request :: deeds.requests := rfl

@[simp] theorem requests_paused : requests (.paused length :: deeds) = deeds.requests := rfl

@[simp] theorem outcomes_asked :
    outcomes (.asked request outcome :: deeds) = outcome :: deeds.outcomes := rfl

@[simp] theorem outcomes_paused : outcomes (.paused length :: deeds) = deeds.outcomes := rfl

@[simp] theorem requests_append : requests (deeds ++ more) = deeds.requests ++ more.requests :=
  List.filterMap_append

@[simp] theorem outcomes_append : outcomes (deeds ++ more) = deeds.outcomes ++ more.outcomes :=
  List.filterMap_append

end Deeds

theorem run_bind_of_eq {σ α β : Type} {x : StateM σ α} {before after : σ} {a : α}
    (h : x.run before = (a, after)) (f : α → StateM σ β) :
    (x >>= f).run before = (f a).run after := by
  rw [StateT.run_bind, h]
  rfl

/-- How a world behaves after what was done so far. -/
structure World where
  reply : Deeds → Request → Outcome
  draw : Deeds → (bound : Nat) → Fin (bound + 1)
  name : Deeds → String

namespace World

/-- The network that keeps the log. -/
def network (w : World) : Network (StateM Deeds) where
  exchange request := fun done => (w.reply done request, done ++ [.asked request (w.reply done request)])
  draw bound := fun done => (w.draw done bound, done)
  pause length := fun done => ((), done ++ [.paused length])
  freshId := fun done => (w.name done, done)

variable (w : World) (done : Deeds)

theorem run_exchange (request : Request) :
    (w.network.exchange request).run done =
      pure (w.reply done request, done ++ [.asked request (w.reply done request)]) := rfl

theorem run_draw (bound : Nat) : (w.network.draw bound).run done = pure (w.draw done bound, done) := rfl

theorem run_pause (length : Duration) :
    (w.network.pause length).run done = pure ((), done ++ [.paused length]) := rfl

theorem run_freshId : w.network.freshId.run done = pure (w.name done, done) := rfl

end World

namespace Outcome

/-- A success whose body could not be read, for a reason that may pass. -/
def BreaksOff : Outcome → Prop
  | .failed _ => False
  | .answered reply =>
    reply.isSuccess = true ∧ ∃ fault, reply.body = .error fault ∧ fault.isTransient = true

/-- What is read from the last outcome. -/
def read (url : Url) : Outcome → Except RequestError String
  | .failed fault => .error (.transport url.text fault)
  | .answered reply => Client.readReply url reply

end Outcome

/-- An error is reported, and the same request might succeed later. -/
def MayPass {α : Type} (answer : Except RequestError α) : Prop :=
  ∃ error, answer = .error error ∧ error.isTransient = true

theorem mayPass_error {α : Type} {error : RequestError} :
    MayPass (.error error : Except RequestError α) ↔ error.isTransient = true := by
  constructor
  · rintro ⟨other, hsame, htransient⟩
    cases hsame
    exact htransient
  · exact fun htransient => ⟨error, rfl, htransient⟩

theorem not_mayPass_ok {α : Type} {value : α} : ¬MayPass (.ok value) := by
  rintro ⟨error, hsame, -⟩
  cases hsame

/-- What is reported as an error that may pass is what would be repeated, and what breaks off. -/
theorem Outcome.mayPass_read (url : Url) (outcome : Outcome) :
    MayPass (outcome.read url) ↔ outcome.isRetriable = true ∨ outcome.BreaksOff := by
  cases outcome with
  | failed fault =>
      rw [read, mayPass_error, isRetriable, BreaksOff, or_false]
      exact Iff.rfl
  | answered reply =>
      rw [read, Client.readReply, isRetriable, BreaksOff]
      cases hsuccess : reply.isSuccess with
      | true =>
          cases hbody : reply.body with
          | ok bytes => simp [Except.map, Except.mapError, not_mayPass_ok]
          | error fault =>
              simp [Except.map, Except.mapError, mayPass_error, RequestError.isTransient]
      | false =>
          cases hbody : reply.body with
          | ok bytes => simp [Except.map, mayPass_error, RequestError.isTransient]
          | error fault => simp [Except.map, mayPass_error, RequestError.isTransient]

/-- Attempts at a request, of which no more than `left` were repetitions, and the last outcome. -/
structure Attempted (request : Request) (left : Nat) (last : Outcome) (log : Deeds) : Prop where
  requests_eq : log.requests = List.replicate log.outcomes.length request
  last_eq : log.outcomes.getLast? = some last
  repeated : ∀ outcome ∈ log.outcomes.dropLast, outcome.isRetriable = true
  bounded : log.outcomes.length ≤ left + 1
  exhausted : last.isRetriable = true → log.outcomes.length = left + 1

namespace Attempted

variable {request : Request} {left : Nat} {outcome last : Outcome} {log : Deeds}

theorem single (left : Nat) (final : outcome.isRetriable = true → left = 0) :
    Attempted request left outcome [.asked request outcome] where
  requests_eq := rfl
  last_eq := rfl
  repeated _ h := nomatch h
  bounded := Nat.succ_le_succ (Nat.zero_le left)
  exhausted h := by rw [final h]; rfl

theorem again (h : Attempted request left last log) (retriable : outcome.isRetriable = true)
    (length : Duration) :
    Attempted request (left + 1) last (.asked request outcome :: .paused length :: log) where
  requests_eq := by
    rw [Deeds.requests_asked, Deeds.requests_paused, Deeds.outcomes_asked, Deeds.outcomes_paused,
      h.requests_eq]
    rfl
  last_eq := by
    rw [Deeds.outcomes_asked, Deeds.outcomes_paused, List.getLast?_cons, h.last_eq]
    rfl
  repeated := by
    have hne : log.outcomes ≠ [] := by
      intro hnil
      have hlast := h.last_eq
      rw [hnil] at hlast
      cases hlast
    rw [Deeds.outcomes_asked, Deeds.outcomes_paused, List.dropLast_cons_of_ne_nil hne]
    exact List.forall_mem_cons.2 ⟨retriable, h.repeated⟩
  bounded := Nat.succ_le_succ h.bounded
  exhausted hlast := congrArg Nat.succ (h.exhausted hlast)

/-- The last outcome came of the request. -/
theorem asked_mem (h : Attempted request left last log) : .asked request last ∈ log := by
  obtain ⟨deed, hdeed, houtcome⟩ := List.mem_filterMap.1 (List.mem_of_getLast? h.last_eq)
  cases deed with
  | paused length => cases houtcome
  | asked other outcome =>
      obtain rfl : outcome = last := Option.some.inj houtcome
      have hother : other ∈ log.requests := List.mem_filterMap.2 ⟨_, hdeed, rfl⟩
      rw [h.requests_eq] at hother
      rw [← List.eq_of_mem_replicate hother]
      exact hdeed

end Attempted

section

variable {w : World} {policy : RetryPolicy} {request : Request}

/-- The pause after an attempt, once that was made. -/
def World.pauseAfter (w : World) (policy : RetryPolicy) (attempt : Nat) (done : Deeds) : Duration :=
  withJitter (policy.delayAfter attempt) (w.draw done (maxJitter (policy.delayAfter attempt)))

theorem retryFrom_last (left attempt : Nat) (done : Deeds)
    (final : (w.reply done request).isRetriable = true → left = 0) :
    (retryFrom w.network policy (w.network.exchange request) left attempt).run done =
      pure (w.reply done request, done ++ [.asked request (w.reply done request)]) := by
  cases left with
  | zero => exact w.run_exchange done request
  | succ left =>
      have hfinal : (w.reply done request).isRetriable = false := by
        cases h : (w.reply done request).isRetriable with
        | false => rfl
        | true => cases final h
      rw [retryFrom, StateT.run_bind, w.run_exchange, pure_bind, hfinal]
      rfl

theorem retryFrom_again (left attempt : Nat) (done : Deeds)
    (retriable : (w.reply done request).isRetriable = true) :
    (retryFrom w.network policy (w.network.exchange request) (left + 1) attempt).run done =
      (retryFrom w.network policy (w.network.exchange request) left (attempt + 1)).run
        (done ++ [.asked request (w.reply done request), .paused
          (w.pauseAfter policy attempt (done ++ [.asked request (w.reply done request)]))]) := by
  rw [retryFrom, StateT.run_bind, w.run_exchange, pure_bind, retriable, if_pos rfl]
  rw [StateT.run_bind, w.run_draw, pure_bind, StateT.run_bind, w.run_pause, pure_bind]
  rw [List.append_assoc, List.singleton_append, World.pauseAfter]

theorem retryFrom_run (w : World) (policy : RetryPolicy) (request : Request) (left attempt : Nat)
    (done : Deeds) :
    ∃ last log, (retryFrom w.network policy (w.network.exchange request) left attempt).run done =
      pure (last, done ++ log) ∧ Attempted request left last log := by
  induction left generalizing attempt done with
  | zero => exact ⟨_, _, retryFrom_last 0 attempt done fun _ => rfl, .single 0 fun _ => rfl⟩
  | succ left ih =>
      cases hretriable : (w.reply done request).isRetriable with
      | false =>
          have final : (w.reply done request).isRetriable = true → left + 1 = 0 := by
            intro h
            rw [hretriable] at h
            cases h
          exact ⟨_, _, retryFrom_last (left + 1) attempt done final, .single (left + 1) final⟩
      | true =>
          let asked : Deed := .asked request (w.reply done request)
          let length := w.pauseAfter policy attempt (done ++ [asked])
          obtain ⟨last, log, hrun, attempted⟩ := ih (attempt + 1) (done ++ [asked, .paused length])
          refine ⟨last, asked :: .paused length :: log, ?_, attempted.again hretriable length⟩
          rw [retryFrom_again left attempt done hretriable, hrun, List.append_assoc]
          rfl

/-- What is final is not repeated. -/
theorem retryFrom_pure {m : Type → Type} [Monad m] [LawfulMonad m] {net : Network m}
    {outcome : Outcome} (final : outcome.isRetriable = false) (left attempt : Nat) :
    retryFrom net policy (pure outcome) left attempt = pure outcome := by
  cases left with
  | zero => rfl
  | succ left => rw [retryFrom, pure_bind, final]; rfl

end

namespace Client

variable (w : World) (client : Client) (url : Url) (done : Deeds)

/-- The request that is made at each attempt. -/
def requestAfter : Request := ⟨url, client.userAgent, w.name done, client.sessionId⟩

theorem fetchText_eq :
    (client.fetchText w.network url).run done =
      (sendWithRetry w.network client.retry
        (if (client.requestAfter w url done).isSendable then
          w.network.exchange (client.requestAfter w url done)
        else pure (.failed .unsendable)) >>= fun outcome => pure (outcome.read url)).run done := by
  rw [fetchText, StateT.run_bind, w.run_freshId, pure_bind]
  rw [StateT.run_bind, StateT.run_bind]
  refine bind_congr fun outcome => ?_
  cases outcome.1 <;> rfl

/-- What comes of a request: attempts at it if it can be sent, and an error at once if it cannot. -/
inductive Tried (client : Client) (request : Request) : Outcome → Deeds → Prop
  | sent {last : Outcome} {log : Deeds} (sendable : request.isSendable = true)
      (attempted : Attempted request client.retry.maxRetries last log) : Tried client request last log
  | barred (unsendable : request.isSendable = false) : Tried client request (.failed .unsendable) []

/-- A request is made exactly if it can be sent, and no more often than retries allow. -/
theorem Tried.requests_eq {client : Client} {request : Request} {last : Outcome} {log : Deeds}
    (tried : client.Tried request last log) :
    ∃ count, count ≤ client.retry.maxRetries + 1 ∧ (0 < count ↔ request.isSendable = true) ∧
      log.requests = List.replicate count request := by
  cases tried with
  | sent sendable attempted =>
      refine ⟨_, attempted.bounded, iff_of_true ?_ sendable, attempted.requests_eq⟩
      exact List.length_pos_of_mem (List.mem_of_getLast? attempted.last_eq)
  | barred unsendable =>
      refine ⟨0, Nat.zero_le _, iff_of_false (Nat.lt_irrefl 0) ?_, rfl⟩
      rw [unsendable]
      exact Bool.false_ne_true

/-- The last outcome is read. -/
theorem fetchText_outcome :
    ∃ last log, (client.fetchText w.network url).run done = pure (last.read url, done ++ log) ∧
      client.Tried (client.requestAfter w url done) last log := by
  rw [fetchText_eq, StateT.run_bind, sendWithRetry]
  cases hsendable : (client.requestAfter w url done).isSendable with
  | false =>
      rw [if_neg Bool.false_ne_true, retryFrom_pure rfl]
      exact ⟨_, [], by rw [List.append_nil]; rfl, .barred hsendable⟩
  | true =>
      rw [if_pos rfl]
      obtain ⟨last, log, hrun, attempted⟩ :=
        retryFrom_run w client.retry (client.requestAfter w url done) client.retry.maxRetries 0 done
      rw [hrun, pure_bind]
      exact ⟨last, log, rfl, .sent hsendable attempted⟩

/-- What the last outcome brought is read as a body. -/
theorem fetch_outcome {α : Type} (read : Json.Document → Option α) :
    ∃ last log, (client.fetch w.network url read).run done =
        pure ((last.read url).bind (readBody url read), done ++ log) ∧
      client.Tried (client.requestAfter w url done) last log := by
  obtain ⟨last, log, hrun, tried⟩ := client.fetchText_outcome w url done
  refine ⟨last, log, ?_, tried⟩
  rw [fetch, StateT.run_bind, hrun, pure_bind]
  rfl

/-- For every policy, and whatever the servers do. -/
theorem mayPass_iff_exhausted_or_breaksOff :
    ∃ answer log, (client.fetchText w.network url).run done = (answer, done ++ log) ∧
      (∀ request ∈ log.requests, request.url = url) ∧
      log.requests.length ≤ client.retry.maxRetries + 1 ∧
      (MayPass answer ↔ ∃ last, log.outcomes.getLast? = some last ∧
        (last.BreaksOff ∨
          last.isRetriable = true ∧ log.requests.length = client.retry.maxRetries + 1)) := by
  obtain ⟨last, log, hrun, tried⟩ := client.fetchText_outcome w url done
  refine ⟨last.read url, log, hrun, ?_⟩
  cases tried with
  | barred =>
      have hfinal : ¬MayPass ((Outcome.failed .unsendable).read url) := fun h =>
        Bool.false_ne_true (mayPass_error.1 h)
      refine ⟨fun _ h => (nomatch h), Nat.zero_le _, fun h => absurd h hfinal, ?_⟩
      rintro ⟨last, hlast, -⟩
      cases hlast
  | sent _ attempted =>
      have hlength : log.requests.length = log.outcomes.length := by
        rw [attempted.requests_eq, List.length_replicate]
      rw [hlength, Outcome.mayPass_read]
      refine ⟨fun other hother => ?_, attempted.bounded, fun h => ⟨last, attempted.last_eq, ?_⟩, ?_⟩
      · rw [attempted.requests_eq] at hother
        rw [List.eq_of_mem_replicate hother]
        rfl
      · rcases h with hretriable | hbroken
        · exact .inr ⟨hretriable, attempted.exhausted hretriable⟩
        · exact .inl hbroken
      · rintro ⟨other, hother, h⟩
        obtain rfl : last = other := Option.some.inj (attempted.last_eq.symm.trans hother)
        rcases h with hbroken | ⟨hretriable, -⟩
        · exact .inr hbroken
        · exact .inl hretriable

/-- The error may pass and three retries are left, but nothing is sent a second time. -/
theorem broken_body_is_not_repeated :
    ∃ (w : World) (client : Client) (url : Url) (answer : Except RequestError String) (log : Deeds),
      (client.fetchText w.network url).run [] = (answer, log) ∧ MayPass answer ∧
        client.retry.maxRetries = 3 ∧ log.requests.length = 1 := by
  let reply : Reply := ⟨200, none, .error .bodyBroken⟩
  let w : World := ⟨fun _ _ => .answered reply, fun _ _ => 0, fun _ => "first"⟩
  let url : Url := ⟨.http, [], none, .ipv6 [0, 0, 0, 0, 0, 0, 0, 1], some 80, [[]]⟩
  let client : Client := ⟨"agent", "session", .upTo 3⟩
  have sendable : (client.requestAfter w url []).isSendable = true := by decide +kernel
  have final : (w.reply [] (client.requestAfter w url [])).isRetriable = true → client.retry.maxRetries = 0 :=
    nofun
  refine ⟨w, client, url, .error (.transport url.text .bodyBroken),
    [.asked (client.requestAfter w url []) (.answered reply)], ?_, mayPass_error.2 rfl, rfl, rfl⟩
  rw [fetchText_eq, if_pos sendable, StateT.run_bind, sendWithRetry, retryFrom_last _ 0 [] final]
  rfl

end Client

end Lineage
