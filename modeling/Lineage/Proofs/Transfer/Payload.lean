import Mathlib
import Lineage.Proofs.History.Walk
import Lineage.Proofs.Transfer.Attempts

/-! Bodies that are no objects. Listings and affixes are read from objects only, and null lists nothing;
a checkpoint is read from an array as well, whose items are its members in their order. Main statement:
every other body is refused, and all checkpoints of a history come from such bodies. -/

namespace Lineage

open Json (Document)

/-- The text of a success whose body was read to its end. -/
def Outcome.body? : Outcome → Option String
  | .failed _ => none
  | .answered reply =>
    if reply.isSuccess then reply.body.toOption.map (Text.ofBody reply.contentType) else none

theorem Outcome.read_eq_ok_iff {url : Url} {outcome : Outcome} {body : String} :
    outcome.read url = .ok body ↔ outcome.body? = some body := by
  cases outcome with
  | failed fault => exact ⟨nofun, nofun⟩
  | answered reply =>
      rw [read, body?, Client.readReply]
      cases hsuccess : reply.isSuccess with
      | true => cases hbody : reply.body <;> simp [Except.map, Except.mapError, Except.toOption]
      | false => cases hbody : reply.body <;> simp [Except.map]

namespace Deeds

/-- What was done last brought this body. -/
def EndsIn (deeds : Deeds) (body : String) : Prop :=
  ∃ last, deeds.outcomes.getLast? = some last ∧ last.body? = some body

/-- A request for the URL brought this body. -/
def Brought (deeds : Deeds) (url : Url) (body : String) : Prop :=
  ∃ request outcome, .asked request outcome ∈ deeds ∧ request.url = url ∧ outcome.body? = some body

theorem Brought.mono {deeds more : Deeds} {url : Url} {body : String} (h : deeds.Brought url body)
    (within : deeds ⊆ more) : more.Brought url body := by
  obtain ⟨request, outcome, hmem, hurl, hbody⟩ := h
  exact ⟨request, outcome, within hmem, hurl, hbody⟩

end Deeds

/-- The answer tells of a body that could not be decoded. -/
def Refused {α : Type} (url : Url) (answer : Except RequestError α) : Prop :=
  ∃ fault, answer = .error (.undecodable url.text fault)

theorem Refused.map {α β : Type} {url : Url} {answer : Except RequestError α} (h : Refused url answer)
    (f : α → β) : Refused url (answer.map f) := by
  obtain ⟨fault, rfl⟩ := h
  exact ⟨fault, rfl⟩

/-- A body that is neither blank nor an object. -/
structure IsForeign (body : String) : Prop where
  filled : Text.isAllBlank body = false
  noObject : ∀ members, Document.parse? body ≠ some (.object members)

namespace Client

variable {α : Type} {url : Url} {read : Document → Option α} {body : String}

theorem readBody_of_some {d : Document} {value : α} (filled : Text.isAllBlank body = false)
    (hd : Document.parse? body = some d) (h : read d = some value) :
    readBody url read body = .ok (some value) := by
  rw [readBody, if_neg (by rw [filled]; exact Bool.false_ne_true), hd]
  simp only [h]

theorem refused_readBody (filled : Text.isAllBlank body = false)
    (h : ∀ d, Document.parse? body = some d → read d = none) : Refused url (readBody url read body) := by
  rw [readBody, if_neg (by rw [filled]; exact Bool.false_ne_true)]
  cases hd : Document.parse? body with
  | none => exact ⟨.notJson, rfl⟩
  | some d =>
      simp only [h d hd]
      exact ⟨.otherShape, rfl⟩

theorem readBody_eq_some {value : α} (h : readBody url read body = .ok (some value)) :
    Text.isAllBlank body = false ∧ ∃ d, Document.parse? body = some d ∧ read d = some value := by
  rw [readBody] at h
  cases hblank : Text.isAllBlank body with
  | true => rw [hblank] at h; cases h
  | false =>
      rw [hblank, if_neg Bool.false_ne_true] at h
      cases hd : Document.parse? body with
      | none => rw [hd] at h; cases h
      | some d =>
          rw [hd] at h
          cases hread : read d with
          | none => simp [hread] at h
          | some other =>
              obtain rfl : other = value := by simpa [hread] using h
              exact ⟨rfl, d, rfl, hread⟩

/-- A body is read where the request brought one, and all that is read comes from such a body. -/
theorem fetch_run (w : World) (client : Client) (url : Url) (read : Document → Option α) (done : Deeds) :
    ∃ answer log, (client.fetch w.network url read).run done = pure (answer, done ++ log) ∧
      (∀ body, log.EndsIn body → answer = readBody url read body) ∧
      ∀ value, answer = .ok value → ∃ body, log.Brought url body ∧ readBody url read body = .ok value := by
  obtain ⟨last, log, hrun, tried⟩ := client.fetch_outcome w url done read
  refine ⟨(last.read url).bind (readBody url read), log, hrun, ?_, ?_⟩
  · rintro body ⟨other, hother, hbody⟩
    cases tried with
    | barred => cases hother
    | sent _ attempted =>
        obtain rfl : last = other := Option.some.inj (attempted.last_eq.symm.trans hother)
        rw [Outcome.read_eq_ok_iff.2 hbody]
        rfl
  · intro value hvalue
    cases tried with
    | barred => cases hvalue
    | sent _ attempted =>
        cases hread : last.read url with
        | error error => rw [hread] at hvalue; cases hvalue
        | ok body =>
            rw [hread] at hvalue
            exact ⟨body, ⟨_, last, attempted.asked_mem, rfl, Outcome.read_eq_ok_iff.1 hread⟩, hvalue⟩

end Client

/-! What is read from a document that is no object. -/

theorem Json.Document.members?_eq_none {d : Document} (h : ∀ members, d ≠ .object members) :
    d.members? = none := by
  cases d with
  | object members => exact absurd rfl (h members)
  | _ => rfl

theorem Affix.ofDocument?_eq_none {d : Document} (h : ∀ members, d ≠ .object members) (hash : String) :
    Affix.ofDocument? hash d = none := by
  rw [ofDocument?, Document.members?_eq_none h]
  rfl

theorem RefSet.ofDocument?_eq_none {d : Document} (h : ∀ members, d ≠ .object members)
    (hnull : d ≠ .null) : RefSet.ofDocument? d = none := by
  cases d with
  | null => exact absurd rfl hnull
  | object members => exact absurd rfl (h members)
  | _ => rfl

namespace Checkpoint

/-- The items are the checkpoint's members in their order, as far as there are any. -/
structure Listed (items : List Document) (c : Checkpoint) : Prop where
  few : items.length ≤ memberNames.length
  parentHashes : Document.orNull [] Document.texts? items[0]? = some c.parentHashes
  affixHash : Document.orNull "" Document.text? items[1]? = some c.affixHash
  commandDesc : Document.orNull "" Document.text? items[2]? = some c.commandDesc
  summary : Document.orNull "" Document.text? items[3]? = some c.summary
  fields : Document.orNull .empty readFields? items[4]? = some c.fields

theorem Listed.withHash {items : List Document} {c : Checkpoint} (h : Listed items c) (hash : String) :
    Listed items { c with hash := hash } :=
  ⟨h.few, h.parentHashes, h.affixHash, h.commandDesc, h.summary, h.fields⟩

theorem hash_of_ofDocument? {hash : String} {d : Document} {c : Checkpoint}
    (h : ofDocument? hash d = some c) : c.hash = hash := by
  obtain ⟨values, -, h⟩ := Option.bind_eq_some_iff.1 h
  split at h
  · obtain ⟨_, -, h⟩ := Option.bind_eq_some_iff.1 h
    obtain ⟨_, -, h⟩ := Option.bind_eq_some_iff.1 h
    obtain ⟨_, -, h⟩ := Option.bind_eq_some_iff.1 h
    obtain ⟨_, -, h⟩ := Option.bind_eq_some_iff.1 h
    obtain ⟨_, -, h⟩ := Option.bind_eq_some_iff.1 h
    cases h
    rfl
  · cases h

theorem record?_array {items : List Document} (few : items.length ≤ memberNames.length) :
    Json.record? memberNames (.array items) =
      some [items[0]?, items[1]?, items[2]?, items[3]?, items[4]?] := by
  match items with
  | [] | [_] | [_, _] | [_, _, _] | [_, _, _, _] | [_, _, _, _, _] => rfl
  | _ :: _ :: _ :: _ :: _ :: _ :: rest => exact absurd few (Nat.not_le.2 (Nat.le_add_left 6 rest.length))

theorem ofDocument?_array {hash : String} {items : List Document} {c : Checkpoint} :
    ofDocument? hash (.array items) = some c ↔ c.hash = hash ∧ Listed items c := by
  by_cases few : items.length ≤ memberNames.length
  · rw [ofDocument?, record?_array few]
    change (Document.orNull [] Document.texts? items[0]?).bind _ = some c ↔ _
    constructor
    · intro h
      obtain ⟨parents, hparents, h⟩ := Option.bind_eq_some_iff.1 h
      obtain ⟨affix, haffix, h⟩ := Option.bind_eq_some_iff.1 h
      obtain ⟨desc, hdesc, h⟩ := Option.bind_eq_some_iff.1 h
      obtain ⟨summary, hsummary, h⟩ := Option.bind_eq_some_iff.1 h
      obtain ⟨fields, hfields, h⟩ := Option.bind_eq_some_iff.1 h
      cases h
      exact ⟨rfl, few, hparents, haffix, hdesc, hsummary, hfields⟩
    · rintro ⟨rfl, h⟩
      simp [h.parentHashes, h.affixHash, h.commandDesc, h.summary, h.fields]
  · have hrecord : Json.record? memberNames (.array items) = none := by
      rw [Json.record?, if_neg few]
    rw [ofDocument?, hrecord]
    exact ⟨nofun, fun h => absurd h.2.few few⟩

theorem ofDocument?_eq_none {d : Document} (hobject : ∀ members, d ≠ .object members)
    (harray : ∀ items, d ≠ .array items) (hash : String) : ofDocument? hash d = none := by
  cases d with
  | object members => exact absurd rfl (hobject members)
  | array items => exact absurd rfl (harray items)
  | _ => rfl

end Checkpoint

/-- A body that a checkpoint may be read from. -/
def Bears (body : String) (c : Checkpoint) : Prop :=
  Text.isAllBlank body = false ∧
    ((∃ members, Document.parse? body = some (.object members)) ∨
      ∃ items, Document.parse? body = some (.array items) ∧ Checkpoint.Listed items c)

namespace Client

variable {url : Url} {body : String}

theorem refused_affix (foreign : IsForeign body) (hash : String) :
    Refused url (readBody url (Affix.ofDocument? hash) body) := by
  refine refused_readBody foreign.filled fun d hd => Affix.ofDocument?_eq_none ?_ hash
  rintro members rfl
  exact foreign.noObject members hd

theorem refused_refs (foreign : IsForeign body) (hnull : Document.parse? body ≠ some .null) :
    Refused url (readBody url RefSet.ofDocument? body) := by
  refine refused_readBody foreign.filled fun d hd => RefSet.ofDocument?_eq_none ?_ ?_
  · rintro members rfl
    exact foreign.noObject members hd
  · rintro rfl
    exact hnull hd

theorem refused_checkpoint (foreign : IsForeign body) {hash : String}
    (unlisted : ∀ items c, Document.parse? body = some (.array items) → ¬Checkpoint.Listed items c) :
    Refused url (readBody url (Checkpoint.ofDocument? hash) body) := by
  refine refused_readBody foreign.filled fun d hd => ?_
  cases hread : Checkpoint.ofDocument? hash d with
  | none => rfl
  | some c =>
      cases d with
      | object members => exact absurd hd (foreign.noObject members)
      | array items => exact absurd (Checkpoint.ofDocument?_array.1 hread).2 (unlisted items c hd)
      | _ => cases hread

theorem bears_of_readBody {hash : String} {c : Checkpoint}
    (h : readBody url (Checkpoint.ofDocument? hash) body = .ok (some c)) :
    c.hash = hash ∧ Bears body c := by
  obtain ⟨filled, d, hd, hread⟩ := readBody_eq_some h
  refine ⟨Checkpoint.hash_of_ofDocument? hread, filled, ?_⟩
  cases d with
  | object members => exact .inl ⟨members, hd⟩
  | array items => exact .inr ⟨items, hd, (Checkpoint.ofDocument?_array.1 hread).2⟩
  | _ => cases hread

end Client

namespace Server

/-- Among what was done, a body was brought that the checkpoint may be read from. -/
def Sent (s : Server) (log : Deeds) (c : Checkpoint) : Prop :=
  ∃ body, log.Brought (s.base.object c.hash) body ∧ Bears body c

/-- Each checkpoint was sent, and a walk ends at a root only if the last of them has no parent. -/
structure SentAll (s : Server) (log : Deeds) (checkpoints : List Checkpoint) (ending : Ending) :
    Prop where
  sent : ∀ c ∈ checkpoints, s.Sent log c
  root : ending = .root → ∃ c, checkpoints.getLast? = some c ∧ c.firstParent = none

variable {s : Server} {log : Deeds} {c : Checkpoint}

theorem SentAll.nil {ending : Ending} (h : ending ≠ .root) (log : Deeds) : s.SentAll log [] ending where
  sent _ hc := nomatch hc
  root hroot := absurd hroot h

theorem SentAll.single (sent : s.Sent log c) (hparent : c.firstParent = none) :
    s.SentAll log [c] .root where
  sent _ hc := List.mem_singleton.1 hc ▸ sent
  root _ := ⟨c, rfl, hparent⟩

theorem SentAll.cons {more : Deeds} {older : List Checkpoint} {ending : Ending} (sent : s.Sent log c)
    (h : s.SentAll more older ending) : s.SentAll (log ++ more) (c :: older) ending where
  sent other hother := by
    rcases List.mem_cons.1 hother with rfl | hmem
    · obtain ⟨body, hbrought, hbears⟩ := sent
      exact ⟨body, hbrought.mono (List.subset_append_left log more), hbears⟩
    · obtain ⟨body, hbrought, hbears⟩ := h.sent other hmem
      exact ⟨body, hbrought.mono (List.subset_append_right log more), hbears⟩
  root hroot := by
    obtain ⟨last, hlast, hparent⟩ := h.root hroot
    refine ⟨last, ?_, hparent⟩
    rw [List.getLast?_cons, hlast]
    rfl

end Server

namespace History

variable (w : World) (s : Server) (limit : Nat)

theorem sentAll_of_stop {left : Nat} {seen : List String} {next : String} {ending : Ending}
    (hwalk : walkFrom (s.fetchCheckpoint w.network) limit left seen next = pure ([], ending))
    (h : ending ≠ .root) (done : Deeds) :
    ∃ checkpoints ending log,
      (walkFrom (s.fetchCheckpoint w.network) limit left seen next).run done =
        pure ((checkpoints, ending), done ++ log) ∧ s.SentAll log checkpoints ending :=
  ⟨[], ending, [], by rw [hwalk, List.append_nil]; rfl, .nil h []⟩

theorem sentAll_walkFrom (left : Nat) (seen : List String) (next : String) (done : Deeds) :
    ∃ checkpoints ending log,
      (walkFrom (s.fetchCheckpoint w.network) limit left seen next).run done =
        pure ((checkpoints, ending), done ++ log) ∧ s.SentAll log checkpoints ending := by
  -- what was sent stays sent as the log grows, so that each step adds its own checkpoint only
  induction left generalizing seen next done with
  | zero =>
      rcases eq_or_ne next "" with rfl | hnext
      · exact sentAll_of_stop w s limit walkFrom_unnamed nofun done
      · exact sentAll_of_stop w s limit (walkFrom_deep hnext) nofun done
  | succ left ih =>
      rcases eq_or_ne next "" with rfl | hnext
      · exact sentAll_of_stop w s limit walkFrom_unnamed nofun done
      by_cases hseen : next ∈ seen
      · exact sentAll_of_stop w s limit (walkFrom_cycle hnext hseen) nofun done
      obtain ⟨answer, log, hrun, -, hvalue⟩ :=
        s.client.fetch_run w (s.base.object next) (Checkpoint.ofDocument? next) done
      have hfetch : (s.fetchCheckpoint w.network next).run done = pure (answer, done ++ log) := hrun
      rw [walkFrom_fetch hnext hseen, StateT.run_bind, hfetch, pure_bind]
      match answer, hvalue with
      | .error error, _ =>
          have hending : Ending.fetchFailed next error.message ≠ .root := nofun
          exact ⟨[], _, log, rfl, .nil hending log⟩
      | .ok none, _ =>
          have hending : Ending.missing next ≠ .root := nofun
          exact ⟨[], _, log, rfl, .nil hending log⟩
      | .ok (some c), hvalue =>
          obtain ⟨body, hbrought, hread⟩ := hvalue _ rfl
          obtain ⟨rfl, hbears⟩ := Client.bears_of_readBody hread
          have sent : s.Sent log c := ⟨body, hbrought, hbears⟩
          cases hparent : c.firstParent with
          | none => exact ⟨[c], .root, log, by simp only [hparent]; rfl, .single sent hparent⟩
          | some parent =>
              obtain ⟨older, ending, more, hwalk, hmore⟩ := ih (c.hash :: seen) parent (done ++ log)
              refine ⟨c :: older, ending, log ++ more, ?_, hmore.cons sent⟩
              simp only [hparent]
              rw [StateT.run_bind, hwalk, pure_bind, List.append_assoc]
              rfl

theorem sentAll_walk (maxDepth : Nat) (start : String) (done : Deeds) :
    ∃ h log, (walk (s.fetchCheckpoint w.network) maxDepth start).run done = pure (h, done ++ log) ∧
      s.SentAll log h.checkpoints h.ending := by
  obtain ⟨checkpoints, ending, log, hrun, hsent⟩ :=
    sentAll_walkFrom w s (max 1 maxDepth) (max 1 maxDepth) [] start done
  refine ⟨⟨start, checkpoints, ending⟩, log, ?_, hsent⟩
  rw [walk, StateT.run_bind, hrun, pure_bind]
  rfl

end History

namespace Server

variable (w : World) (s : Server) (done : Deeds)

theorem fetchAffix_run (hash : String) :
    ∃ answer log, (s.fetchAffix w.network hash).run done = (answer, done ++ log) ∧
      ∀ body, log.EndsIn body → IsForeign body → Refused (s.base.object hash) answer := by
  obtain ⟨answer, log, hrun, hends, -⟩ :=
    s.client.fetch_run w (s.base.object hash) (Affix.ofDocument? hash) done
  refine ⟨answer, log, hrun, fun body hbody foreign => ?_⟩
  rw [hends body hbody]
  exact Client.refused_affix foreign hash

/-- A listing is read from the body that the request brought, if it brought one. -/
theorem fetchRefs_reads :
    ∃ answer log, (s.fetchRefs w.network).run done = (answer, done ++ log) ∧
      ∀ body, log.EndsIn body →
        answer = (Client.readBody s.base.refs RefSet.ofDocument? body).map (·.getD .empty) := by
  obtain ⟨answer, log, hrun, hends, -⟩ := s.client.fetch_run w s.base.refs RefSet.ofDocument? done
  refine ⟨answer.map (·.getD .empty), log, ?_, fun body hbody => ?_⟩
  · rw [fetchRefs, StateT.run_bind, hrun, pure_bind]
    rfl
  · rw [hends body hbody]

theorem fetchRefs_run :
    ∃ answer log, (s.fetchRefs w.network).run done = (answer, done ++ log) ∧
      ∀ body, log.EndsIn body → IsForeign body →
        (Document.parse? body = some .null → answer = .ok .empty) ∧
        (Document.parse? body ≠ some .null → Refused s.base.refs answer) := by
  obtain ⟨answer, log, hrun, hread⟩ := fetchRefs_reads w s done
  refine ⟨answer, log, hrun, fun body hbody foreign => ?_⟩
  rw [hread body hbody]
  constructor
  · intro hnull
    have hempty : RefSet.ofDocument? .null = some .empty := rfl
    rw [Client.readBody_of_some foreign.filled hnull hempty]
    rfl
  · intro hnull
    exact (Client.refused_refs foreign hnull).map _

theorem fetchCheckpoint_run (hash : String) :
    ∃ answer log, (s.fetchCheckpoint w.network hash).run done = (answer, done ++ log) ∧
      ∀ body, log.EndsIn body → IsForeign body →
        (∃ items c, Document.parse? body = some (.array items) ∧ Checkpoint.Listed items c ∧
          c.hash = hash ∧ answer = .ok (some c)) ∨
        (∀ items c, Document.parse? body = some (.array items) → ¬Checkpoint.Listed items c) ∧
          Refused (s.base.object hash) answer := by
  obtain ⟨answer, log, hrun, hends, -⟩ :=
    s.client.fetch_run w (s.base.object hash) (Checkpoint.ofDocument? hash) done
  refine ⟨answer, log, hrun, fun body hbody foreign => ?_⟩
  rw [hends body hbody]
  by_cases h : ∃ items c, Document.parse? body = some (.array items) ∧ Checkpoint.Listed items c
  · obtain ⟨items, c, hparse, listed⟩ := h
    have hread : Checkpoint.ofDocument? hash (.array items) = some { c with hash := hash } :=
      Checkpoint.ofDocument?_array.2 ⟨rfl, listed.withHash hash⟩
    exact .inl ⟨items, _, hparse, listed.withHash hash, rfl,
      Client.readBody_of_some foreign.filled hparse hread⟩
  · have unlisted : ∀ items c, Document.parse? body = some (.array items) →
        ¬Checkpoint.Listed items c :=
      fun items c hparse listed => h ⟨items, c, hparse, listed⟩
    exact .inr ⟨unlisted, Client.refused_checkpoint foreign unlisted⟩

/-- In any world, and after whatever was done. -/
theorem foreign_refused_unless_listed :
    (∀ hash, ∃ answer log, (s.fetchAffix w.network hash).run done = (answer, done ++ log) ∧
      ∀ body, log.EndsIn body → IsForeign body → Refused (s.base.object hash) answer) ∧
    (∃ answer log, (s.fetchRefs w.network).run done = (answer, done ++ log) ∧
      ∀ body, log.EndsIn body → IsForeign body →
        (Document.parse? body = some .null → answer = .ok .empty) ∧
        (Document.parse? body ≠ some .null → Refused s.base.refs answer)) ∧
    (∀ hash, ∃ answer log, (s.fetchCheckpoint w.network hash).run done = (answer, done ++ log) ∧
      ∀ body, log.EndsIn body → IsForeign body →
        (∃ items c, Document.parse? body = some (.array items) ∧ Checkpoint.Listed items c ∧
          c.hash = hash ∧ answer = .ok (some c)) ∨
        (∀ items c, Document.parse? body = some (.array items) → ¬Checkpoint.Listed items c) ∧
          Refused (s.base.object hash) answer) ∧
    ∀ maxDepth start, ∃ h log,
      (History.walk (s.fetchCheckpoint w.network) maxDepth start).run done = (h, done ++ log) ∧
      s.SentAll log h.checkpoints h.ending :=
  ⟨fetchAffix_run w s done, fetchRefs_run w s done, fetchCheckpoint_run w s done,
    fun maxDepth start => History.sentAll_walk w s maxDepth start done⟩

/-- The array without items is taken for a checkpoint without members, and a history ends with it. -/
theorem array_taken_for_checkpoint :
    ∃ (w : World) (s : Server) (log : Deeds), IsForeign "[]" ∧ log.EndsIn "[]" ∧
      (s.fetchCheckpoint w.network "a").run [] = (.ok (some (.bare "a")), log) ∧
      (History.walk (s.fetchCheckpoint w.network) 1000 "a").run [] = (⟨"a", [.bare "a"], .root⟩, log) := by
  let reply : Reply := ⟨200, none, .ok [0x5b, 0x5d]⟩
  let w : World := ⟨fun _ _ => .answered reply, fun _ _ => 0, fun _ => "first"⟩
  let base : Url := ⟨.http, [], none, .ipv6 [0, 0, 0, 0, 0, 0, 0, 1], some 80, [[]]⟩
  let s : Server := ⟨⟨"agent", "session", .none⟩, base⟩
  let request : Request := s.client.requestAfter w (base.object "a") []
  have hbody : (Outcome.answered reply).body? = some "[]" := by decide +kernel
  have sendable : request.isSendable = true := by decide +kernel
  have hparse : Document.parse? "[]" = some (.array []) := rfl
  have final : (w.reply [] request).isRetriable = true → s.client.retry.maxRetries = 0 := fun _ => rfl
  have hrun : (s.fetchCheckpoint w.network "a").run [] =
      (.ok (some (.bare "a")), [.asked request (.answered reply)]) := by
    have hread : (Outcome.answered reply).read (base.object "a") = .ok "[]" := Outcome.read_eq_ok_iff.2 hbody
    have htaken : Client.readBody (base.object "a") (Checkpoint.ofDocument? "a") "[]" =
        .ok (some (.bare "a")) := Client.readBody_of_some (by decide) hparse rfl
    rw [fetchCheckpoint, Client.fetch, StateT.run_bind, Client.fetchText_eq, if_pos sendable,
      StateT.run_bind, sendWithRetry, retryFrom_last _ 0 [] final]
    change (Except.bind ((Outcome.answered reply).read (base.object "a")) _, _) = _
    rw [hread]
    exact congrArg (·, _) htaken
  refine ⟨w, s, [.asked request (.answered reply)], ⟨by decide, ?_⟩, ⟨_, rfl, hbody⟩, hrun, ?_⟩
  · intro members hmembers
    rw [hparse] at hmembers
    cases hmembers
  · have hname : "a" ≠ "" := by decide
    have hlimit : max 1 1000 = 999 + 1 := rfl
    rw [History.walk, hlimit, StateT.run_bind, History.walkFrom_fetch hname List.not_mem_nil,
      StateT.run_bind, hrun]
    rfl

end Server

end Lineage
