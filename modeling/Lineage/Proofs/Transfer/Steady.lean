import Mathlib
import Lineage.Proofs.History.Walk
import Lineage.Proofs.Transfer.Attempts

/-! Steady worlds: each URL has one reply, whenever and by whomever it is asked for. Names of requests,
pauses and repetitions then make no difference. Main statements: what is read of a server, and the
history that is walked on it, are functions of the replies alone. -/

namespace Lineage

section

variable {σ α β : Type} {x : StateM σ α} {f : α → StateM σ β} {a : α} {b : β}

/-- What comes of the computation, whatever the state it starts in. -/
def Gives (x : StateM σ α) (a : α) : Prop := ∀ s, (x.run s).1 = a

namespace Gives

theorem pure (a : α) : Gives (pure a : StateM σ α) a := fun _ => rfl

theorem bind (hx : Gives x a) (hf : Gives (f a) b) : Gives (x >>= f) b := by
  intro s
  have h := hf (x.run s).2
  rw [← hx s] at h
  exact h

/-- The first result makes no difference. -/
theorem bind_of_forall (x : StateM σ α) (hf : ∀ a, Gives (f a) b) : Gives (x >>= f) b :=
  fun s => hf (x.run s).1 (x.run s).2

theorem mapM {f : α → StateM σ β} {g : α → β} (h : ∀ a, Gives (f a) (g a)) (l : List α) :
    Gives (l.mapM f) (l.map g) := by
  induction l with
  | nil => exact .pure []
  | cons a l ih =>
      rw [List.mapM_cons]
      exact (h a).bind (ih.bind (.pure (g a :: l.map g)))

end Gives

end

/-- The reply that each URL has. -/
abbrev Replies := Url → Outcome

def World.Steady (w : World) (replies : Replies) : Prop :=
  ∀ done request, w.reply done request = replies request.url

namespace Replies

/-- Requests all have one name, and pauses are as short as they can be. -/
def world (replies : Replies) (name : String) : World :=
  ⟨fun _ request => replies request.url, fun _ _ => 0, fun _ => name⟩

theorem world_steady (replies : Replies) (name : String) : (replies.world name).Steady replies :=
  fun _ _ => rfl

variable (replies : Replies) (agent : String)

/-- What comes of a request by this agent. -/
def outcome (url : Url) : Outcome :=
  if (⟨url, agent, "", ""⟩ : Request).isSendable then replies url else .failed .unsendable

def text (url : Url) : Except RequestError String :=
  (replies.outcome agent url).read url

def fetch {α : Type} (url : Url) (read : Json.Document → Option α) :
    Except RequestError (Option α) :=
  (replies.text agent url).bind (Client.readBody url read)

def refs (base : Url) : Except RequestError RefSet :=
  (replies.fetch agent base.refs RefSet.ofDocument?).map (·.getD .empty)

def checkpoint (base : Url) (hash : String) : Except RequestError (Option Checkpoint) :=
  replies.fetch agent (base.object hash) (Checkpoint.ofDocument? hash)

def affix (base : Url) (hash : String) : Except RequestError (Option Affix) :=
  replies.fetch agent (base.object hash) (Affix.ofDocument? hash)

/-- A hash is answered in the same way, whatever was asked for before. -/
def answers (base : Url) : Answers := fun _ hash => replies.checkpoint agent base hash

def history (base : Url) (maxDepth : Nat) (start : String) : History :=
  ((replies.answers agent base).walk maxDepth start).1

end Replies

theorem retryFrom_gives {σ : Type} {net : Network (StateM σ)} {policy : RetryPolicy}
    {once : StateM σ Outcome} {outcome : Outcome} (h : Gives once outcome) (left attempt : Nat) :
    Gives (retryFrom net policy once left attempt) outcome := by
  induction left generalizing attempt with
  | zero => exact h
  | succ left ih =>
      rw [retryFrom]
      refine h.bind ?_
      cases outcome.isRetriable with
      | false => exact .pure outcome
      | true => exact .bind_of_forall _ fun _ => .bind_of_forall _ fun _ => ih (attempt + 1)

section

variable {w : World} {replies : Replies}

theorem fetchText_gives (steady : w.Steady replies) (client : Client) (url : Url) :
    Gives (client.fetchText w.network url) (replies.text client.userAgent url) := by
  rw [Client.fetchText]
  refine .bind_of_forall _ fun requestId => ?_
  let request : Request := ⟨url, client.userAgent, requestId, client.sessionId⟩
  have once : Gives (if request.isSendable then w.network.exchange request
      else pure (.failed .unsendable)) (replies.outcome client.userAgent url) := by
    rw [Replies.outcome]
    change Gives (if request.isSendable then _ else _) (if request.isSendable then _ else _)
    cases request.isSendable with
    | false => exact .pure _
    | true => exact fun done => steady done request
  refine (retryFrom_gives once client.retry.maxRetries 0).bind ?_
  rw [Replies.text]
  cases replies.outcome client.userAgent url <;> exact .pure _

theorem fetch_gives (steady : w.Steady replies) (client : Client) (url : Url) {α : Type}
    (read : Json.Document → Option α) :
    Gives (client.fetch w.network url read) (replies.fetch client.userAgent url read) :=
  (fetchText_gives steady client url).bind (.pure _)

variable (server : Server)

theorem fetchRefs_gives (steady : w.Steady replies) :
    Gives (server.fetchRefs w.network) (replies.refs server.client.userAgent server.base) :=
  (fetch_gives steady server.client server.base.refs RefSet.ofDocument?).bind (.pure _)

theorem fetchCheckpoint_gives (steady : w.Steady replies) (hash : String) :
    Gives (server.fetchCheckpoint w.network hash)
      (replies.checkpoint server.client.userAgent server.base hash) :=
  fetch_gives steady server.client _ _

theorem fetchAffix_gives (steady : w.Steady replies) (hash : String) :
    Gives (server.fetchAffix w.network hash)
      (replies.affix server.client.userAgent server.base hash) :=
  fetch_gives steady server.client _ _

end

namespace Answers

variable {σ : Type} {fetch : Source (StateM σ)} {a : Answers} {limit left : Nat} {next : String}
variable {earlier log : List String} {checkpoints : List Checkpoint} {ending : Ending}

/-- A walk takes the same course on every source that gives the same answers. -/
theorem Course.gives (same : ∀ earlier hash, Gives (fetch hash) (a earlier hash))
    (course : Course a limit left earlier next checkpoints ending log) :
    Gives (History.walkFrom fetch limit left earlier.reverse next) (checkpoints, ending) := by
  have unseen {earlier : List String} {next : String} (new : next ∉ earlier) :
      next ∉ earlier.reverse := by rwa [List.mem_reverse]
  have fetched {earlier : List String} {next : String}
      {answer : Except RequestError (Option Checkpoint)} (h : a earlier next = answer) :
      Gives (fetch next) answer := h ▸ same earlier next
  induction course with
  | unnamed => rw [History.walkFrom_unnamed]; exact .pure _
  | deep _ named => rw [History.walkFrom_deep named]; exact .pure _
  | cycle _ named h =>
      rw [History.walkFrom_cycle named (List.mem_reverse.2 h)]
      exact .pure _
  | gone _ named new h =>
      rw [History.walkFrom_fetch named (unseen new)]
      exact (fetched h).bind (.pure _)
  | failed _ named new h =>
      rw [History.walkFrom_fetch named (unseen new)]
      exact (fetched h).bind (.pure _)
  | root _ named new h orphan =>
      rw [History.walkFrom_fetch named (unseen new)]
      refine (fetched h).bind ?_
      simp only [orphan]
      exact .pure _
  | parent named new h hparent _ ih =>
      rw [List.reverse_append, List.reverse_singleton, List.singleton_append] at ih
      rw [History.walkFrom_fetch named (unseen new)]
      refine (fetched h).bind ?_
      simp only [hparent]
      exact ih.bind (.pure _)

theorem walk_gives (same : ∀ earlier hash, Gives (fetch hash) (a earlier hash)) (maxDepth : Nat)
    (start : String) : Gives (History.walk fetch maxDepth start) (a.walk maxDepth start).1 := by
  obtain ⟨checkpoints, ending, log, course, hwalk⟩ := a.exists_walk_course maxDepth start
  rw [hwalk, History.walk]
  have found := course.gives same
  rw [List.reverse_nil] at found
  exact found.bind (.pure _)

end Answers

theorem history_gives {w : World} {replies : Replies} (steady : w.Steady replies) (server : Server)
    (maxDepth : Nat) (start : String) :
    Gives (History.walk (server.fetchCheckpoint w.network) maxDepth start)
      (replies.history server.client.userAgent server.base maxDepth start) :=
  Answers.walk_gives (fun _ hash => fetchCheckpoint_gives server steady hash) maxDepth start

end Lineage
