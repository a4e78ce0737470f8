import Mathlib
import Lineage.Proofs.Browser.Run
import Lineage.Proofs.Command.Logging
import Lineage.Proofs.Listing.AffixBlock
import Lineage.Proofs.Transfer.Steady

/-! Logging a history with the events that its checkpoints appended. The affixes are asked for after the
whole walk, one after another, and what comes of one changes nothing but what is listed of it. Main
statement: in any world, to list the events only adds lines behind those of the checkpoints, and requests
behind those of the walk. -/

namespace Lineage

/-- Requests for the URLs, one after another. Each is made exactly if it can be sent, and no more often
than retries allow. -/
inductive AskedInTurn (client : Client) : List Url → List Request → Prop
  | none : AskedInTurn client [] []
  | next {url : Url} {urls : List Url} {requestId : String} {count : Nat} {more : List Request}
      (few : count ≤ client.retry.maxRetries + 1)
      (sent_iff : 0 < count ↔
        (⟨url, client.userAgent, requestId, client.sessionId⟩ : Request).isSendable = true)
      (rest : AskedInTurn client urls more) :
      AskedInTurn client (url :: urls)
        (List.replicate count ⟨url, client.userAgent, requestId, client.sessionId⟩ ++ more)

namespace Command

section

variable {m : Type → Type} [Monad m] (net : Network m) (server : Server) (now : Instant)

theorem affixTexts_eq [LawfulMonad m] (hash : String) :
    affixTexts net server hash = Listing.affixBlock <$> server.fetchAffix net hash := by
  rw [affixTexts, map_eq_pure_bind]
  apply bind_congr
  intro answer
  cases answer with
  | error error => rfl
  | ok found => cases found <;> rfl

theorem checkpointTexts_unnamed {c : Checkpoint} (h : c.affixHash = "") (affix : Bool) :
    checkpointTexts net server now affix c = pure [Listing.checkpointLine now c] := by
  rw [checkpointTexts, h]
  cases affix <;> rfl

theorem checkpointTexts_named [LawfulMonad m] {c : Checkpoint} (h : c.affixHash ≠ "") :
    checkpointTexts net server now true c =
      (fun answer => Listing.checkpointLine now c :: Listing.affixBlock answer) <$>
        server.fetchAffix net c.affixHash := by
  have hnamed : (true && !c.affixHash.isEmpty) = true := by simpa using h
  rw [checkpointTexts, if_pos hnamed, affixTexts_eq, bind_pure_comp, Functor.map_map]

end

/-- What is listed behind the line of each checkpoint, and what was done for that, in the order of the
history. -/
inductive Listed (w : World) (s : Server) :
    (before : Deeds) → List Checkpoint → (blocks : List (List String)) → (log : Deeds) → Prop
  | none (before : Deeds) : Listed w s before [] [] []
  | unnamed {before log : Deeds} {c : Checkpoint} {cs : List Checkpoint} {blocks : List (List String)}
      (h : c.affixHash = "") (rest : Listed w s before cs blocks log) :
      Listed w s before (c :: cs) ([] :: blocks) log
  | fetched {before log more : Deeds} {c : Checkpoint} {cs : List Checkpoint}
      {blocks : List (List String)} {answer : Except RequestError (Option Affix)} {last : Outcome}
      {block : List String} (h : c.affixHash ≠ "")
      (run : (s.fetchAffix w.network c.affixHash).run before = (answer, before ++ log))
      (tried : s.client.Tried (s.client.requestAfter w (s.base.object c.affixHash) before) last log)
      (shown : Listing.AffixBlock c.affixHash last.body? block)
      (rest : Listed w s (before ++ log) cs blocks more) :
      Listed w s before (c :: cs) (block :: blocks) (log ++ more)

/-- The lines of the checkpoints, each with its block behind it. -/
def interleaved (now : Instant) (cs : List Checkpoint) (blocks : List (List String)) :
    List (List String) :=
  List.zipWith (fun c block => Listing.checkpointLine now c :: block) cs blocks

section

variable (w : World) (s : Server) (now : Instant)

theorem exists_listed (cs : List Checkpoint) (before : Deeds) :
    ∃ blocks log, Listed w s before cs blocks log ∧
      (cs.mapM (checkpointTexts w.network s now true)).run before =
        (interleaved now cs blocks, before ++ log) := by
  induction cs generalizing before with
  | nil => exact ⟨[], [], .none before, by rw [List.append_nil]; rfl⟩
  | cons c cs ih =>
      rw [List.mapM_cons]
      by_cases h : c.affixHash = ""
      · obtain ⟨blocks, log, listed, hrun⟩ := ih before
        refine ⟨[] :: blocks, log, .unnamed h listed, ?_⟩
        rw [checkpointTexts_unnamed w.network s now h true, pure_bind, run_bind_of_eq hrun]
        rfl
      · obtain ⟨last, log, hfetch, tried⟩ := s.client.fetch_outcome w (s.base.object c.affixHash) before
          (Affix.ofDocument? c.affixHash)
        let answer := (last.read (s.base.object c.affixHash)).bind
          (Client.readBody (s.base.object c.affixHash) (Affix.ofDocument? c.affixHash))
        have shown : Listing.AffixBlock c.affixHash last.body? (Listing.affixBlock answer) :=
          Listing.affixBlock_of_last c.affixHash (s.base.object c.affixHash) last
        obtain ⟨blocks, more, listed, hrun⟩ := ih (before ++ log)
        refine ⟨Listing.affixBlock answer :: blocks, log ++ more,
          .fetched h hfetch tried shown listed, ?_⟩
        have hlines : (checkpointTexts w.network s now true c).run before =
            (Listing.checkpointLine now c :: Listing.affixBlock answer, before ++ log) := by
          rw [checkpointTexts_named w.network s now h, StateT.run_map, Server.fetchAffix, hfetch]
          rfl
        rw [run_bind_of_eq hlines, run_bind_of_eq hrun, ← List.append_assoc]
        rfl

theorem startHash_run (setup : Setup) (target : Option String) (done : Deeds) :
    ∃ start log, (startHash w.network setup s target).run done = (start, done ++ log) := by
  obtain ⟨listing, log, hrun, -⟩ := Server.fetchRefs_run w s done
  rw [startHash, run_bind_of_eq hrun]
  cases listing with
  | ok refs => exact ⟨_, log, rfl⟩
  | error error => cases target <;> exact ⟨_, log, rfl⟩

theorem logWalk_run (setup : Setup) (options : LogOptions) (done : Deeds) :
    ∃ walked log, (logWalk w.network setup options s).run done = (walked, done ++ log) := by
  obtain ⟨start, log, hrun⟩ := startHash_run w s setup options.target done
  rw [logWalk, run_bind_of_eq hrun]
  cases start with
  | error error => exact ⟨_, log, rfl⟩
  | ok start =>
      obtain ⟨h, more, hwalk, -⟩ :=
        History.sentAll_walk w s (setup.depth options.maxDepth) start (done ++ log)
      refine ⟨.ok h, log ++ more, ?_⟩
      dsimp only
      rw [run_bind_of_eq hwalk, ← List.append_assoc]
      rfl

end

/-- Where the affixes are kept that the checkpoints name. -/
def affixUrls (s : Server) (cs : List Checkpoint) : List Url :=
  (cs.filter fun c => !c.affixHash.isEmpty).map fun c => s.base.object c.affixHash

section

variable {w : World} {s : Server} {before log : Deeds} {cs : List Checkpoint}
variable {blocks : List (List String)}

theorem affixUrls_unnamed {c : Checkpoint} (h : c.affixHash = "") (cs : List Checkpoint) :
    affixUrls s (c :: cs) = affixUrls s cs := by
  rw [affixUrls, List.filter_cons_of_neg (by simp [h]), affixUrls]

theorem affixUrls_named {c : Checkpoint} (h : c.affixHash ≠ "") (cs : List Checkpoint) :
    affixUrls s (c :: cs) = s.base.object c.affixHash :: affixUrls s cs := by
  rw [affixUrls, List.filter_cons_of_pos (by simpa using h), List.map_cons, affixUrls]

theorem Listed.length_eq (h : Listed w s before cs blocks log) : blocks.length = cs.length := by
  induction h with
  | none => rfl
  | unnamed _ _ ih => exact congrArg Nat.succ ih
  | fetched _ _ _ _ _ ih => exact congrArg Nat.succ ih

theorem Listed.asked (h : Listed w s before cs blocks log) :
    AskedInTurn s.client (affixUrls s cs) log.requests := by
  induction h with
  | none => exact .none
  | unnamed unnamed _ ih =>
      rw [affixUrls_unnamed unnamed]
      exact ih
  | @fetched before log more c _ _ _ _ _ named _ tried _ _ ih =>
      obtain ⟨count, few, sent_iff, hrequests⟩ := tried.requests_eq
      rw [affixUrls_named named, Deeds.requests_append, hrequests]
      exact .next few sent_iff ih

end

/-- In any world, and after whatever was done. -/
theorem affix_only_adds (w : World) (now : Instant) (setup : Setup) (target : Option String)
    (maxDepth : Option UInt64) (done : Deeds) :
    ∃ plain full shared more,
      (log w.network now setup ⟨target, maxDepth, false, false⟩).run done = (plain, done ++ shared) ∧
      (log w.network now setup ⟨target, maxDepth, true, false⟩).run done =
        (full, done ++ shared ++ more) ∧
      ((∃ error, plain = .failed error ∧ full = .failed error ∧ more = []) ∨
        ∃ s h blocks, setup.connect = .ok s ∧
          (logWalk w.network setup ⟨target, maxDepth, false, false⟩ s).run done =
            (.ok h, done ++ shared) ∧
          Listed w s (done ++ shared) h.checkpoints blocks more ∧
          blocks.length = h.checkpoints.length ∧
          AskedInTurn s.client (affixUrls s h.checkpoints) more.requests ∧
          plain = .printed (h.checkpoints.map (Listing.checkpointLine now) ++ noteTexts h) ∧
          full = .printed ((interleaved now h.checkpoints blocks).flatten ++ noteTexts h)) := by
  have sameWalk (s : Server) : logWalk w.network setup ⟨target, maxDepth, true, false⟩ s =
      logWalk w.network setup ⟨target, maxDepth, false, false⟩ s := rfl
  rw [log_eq, log_eq]
  cases hconnect : setup.connect with
  | error error =>
      refine ⟨.failed error, .failed error, [], [], ?_, ?_, .inl ⟨error, rfl, rfl, rfl⟩⟩
      · rw [List.append_nil]
        rfl
      · rw [List.append_nil, List.append_nil]
        rfl
  | ok s =>
      obtain ⟨walked, shared, hwalk⟩ := logWalk_run w s setup ⟨target, maxDepth, false, false⟩ done
      simp only [sameWalk]
      rw [run_bind_of_eq hwalk, run_bind_of_eq hwalk]
      cases walked with
      | error error =>
          refine ⟨.failed error, .failed error, shared, [], rfl, ?_, .inl ⟨error, rfl, rfl, rfl⟩⟩
          rw [List.append_nil]
          rfl
      | ok h =>
          cases hempty : h.isEmpty with
          | true =>
              rw [logReport_of_isEmpty _ _ _ _ _ _ hempty, logReport_of_isEmpty _ _ _ _ _ _ hempty]
              refine ⟨_, _, shared, [], rfl, ?_, .inl ⟨_, rfl, rfl, rfl⟩⟩
              rw [List.append_nil]
              rfl
          | false =>
              obtain ⟨blocks, more, listed, hrun⟩ :=
                exists_listed w s now h.checkpoints (done ++ shared)
              rw [logReport_of_checkpoints _ _ _ _ _ _ hempty, historyTexts_plain, pure_bind,
                logReport_of_checkpoints _ _ _ _ _ _ hempty, historyTexts, bind_assoc,
                run_bind_of_eq hrun]
              exact ⟨_, _, shared, more, rfl, rfl, .inr ⟨s, h, blocks, rfl, hwalk, listed,
                listed.length_eq, listed.asked, rfl, rfl⟩⟩

/-- Three checkpoints, each with an affix. The first one's has two partitions, one of which is null; the
second one's comes back empty, and the third one's fails. -/
def threeAffixes : Replies := fun url =>
  let server := Browser.localServer 8080
  let told (body : String) : Outcome := .answered ⟨200, none, .ok body.toUTF8.toList⟩
  if url = server.refs then told "\x7b\"main\":\"a\"\x7d"
  else if url = server.object "a" then told "\x7b\"parentHashes\":[\"b\"],\"affixHash\":\"x\"\x7d"
  else if url = server.object "b" then told "\x7b\"parentHashes\":[\"c\"],\"affixHash\":\"y\"\x7d"
  else if url = server.object "c" then told "\x7b\"affixHash\":\"z\"\x7d"
  else if url = server.object "x" then told "\x7b\"p\":[\"d\",\"e\"],\"q\":null\x7d"
  else if url = server.object "y" then told "\n"
  else .answered ⟨503, none, .ok []⟩

/-- What is printed of them. -/
def threeLines : List String :=
  ["a                 ?  -         ", "b                 ?  -         ", "c                 ?  -         "]

/-- The same with their affixes, of which the third one is not there. -/
def threeLinesAndAffixes : List String :=
  ["a                 ?  -         ", "    affix x (2 events)", "    p: d, e", "    q: ",
    "b                 ?  -         ", "    (empty affix)", "c                 ?  -         "]

/-- The affix that fails is asked for again while retries are left. -/
theorem affix_only_adds_for_three_affixes :
    ∃ (setup : Setup) (s : Server) (h : History) (blocks : List (List String)) (shared more : Deeds),
      setup = .load ⟨"cfg", .absent⟩ (fun _ => none) (some "http://[::1]:8080") "one" ∧
      (log (threeAffixes.world "first").network ⟨0, 0, 0⟩ setup ⟨some "main", none, false, false⟩).run [] =
        (.printed threeLines, shared) ∧
      (log (threeAffixes.world "first").network ⟨0, 0, 0⟩ setup ⟨some "main", none, true, false⟩).run [] =
        (.printed threeLinesAndAffixes, shared ++ more) ∧
      more.requests.map Request.url = ["x", "y", "z", "z", "z", "z"].map s.base.object ∧
      Listed (threeAffixes.world "first") s shared h.checkpoints blocks more ∧
      AskedInTurn s.client (affixUrls s h.checkpoints) more.requests := by
  let w : World := threeAffixes.world "first"
  let setup : Setup := .load ⟨"cfg", .absent⟩ (fun _ => none) (some "http://[::1]:8080") "one"
  let base : Url := Browser.localServer 8080
  let walked : List Url := base.refs :: ["a", "b", "c"].map base.object
  let affixes : List Url := ["x", "y", "z", "z", "z", "z"].map base.object
  have connects : setup.connect = .ok ⟨setup.client, base⟩ := by decide +kernel
  have toldPlain : ((log w.network ⟨0, 0, 0⟩ setup ⟨some "main", none, false, false⟩).run []).1 =
        .printed threeLines ∧
      (Deeds.requests ((log w.network ⟨0, 0, 0⟩ setup ⟨some "main", none, false, false⟩).run []).2).map
        Request.url = walked := by
    decide +kernel
  have toldFull : ((log w.network ⟨0, 0, 0⟩ setup ⟨some "main", none, true, false⟩).run []).1 =
        .printed threeLinesAndAffixes ∧
      (Deeds.requests ((log w.network ⟨0, 0, 0⟩ setup ⟨some "main", none, true, false⟩).run []).2).map
        Request.url = walked ++ affixes := by
    decide +kernel
  obtain ⟨plain, full, shared, more, hplain, hfull, hcase⟩ :=
    affix_only_adds w ⟨0, 0, 0⟩ setup (some "main") none []
  rw [hplain, List.nil_append] at toldPlain
  rw [hfull, List.nil_append] at toldFull
  obtain ⟨rfl, hwalked⟩ := toldPlain
  obtain ⟨rfl, hasked⟩ := toldFull
  have hmore : more.requests.map Request.url = affixes := by
    rw [Deeds.requests_append, List.map_append, hwalked] at hasked
    exact List.append_cancel_left hasked
  rcases hcase with ⟨error, hfailed, -⟩ | ⟨s, h, blocks, hconnect, -, listed, -, asked, -⟩
  · cases hfailed
  · obtain rfl : ⟨setup.client, base⟩ = s := Except.ok.inj (connects.symm.trans hconnect)
    exact ⟨setup, _, h, blocks, shared, more, rfl, hplain, hfull, hmore, listed, asked⟩

end Command

end Lineage
