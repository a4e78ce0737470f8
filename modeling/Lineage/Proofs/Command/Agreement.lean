import Mathlib
import Lineage.Proofs.Command.Conversation
import Lineage.Proofs.History.Record
import Lineage.Proofs.Listing.Remark

/-! Two ways to see a history: it is logged, or selected in the browser. Logging resolves the target by
a listing of its own and walks at once; the browser has its listing already and walks as an effect.
Main statement: on a server whose replies stay the same both come to the same history, and show the
same checkpoints and the same note of it; what is logged as JSON is read back as that history. -/

namespace Lineage

namespace Command

section

variable {w : World} {replies : Replies} {base : Url} {target : String} {now : Instant}

theorem connect_eq {setup : Setup} (usable : Url.server setup.settings.serverUrl = .ok base) :
    setup.connect = .ok ⟨setup.client, base⟩ := by
  rw [Setup.connect, Server.connect, usable]
  rfl

/-- A listing that fails leaves the target as it is. -/
theorem startHash_gives (steady : w.Steady replies) (setup : Setup) (server : Server)
    (target : String) : Gives (startHash w.network setup server (some target))
      (.ok (replies.resolve server.client.userAgent server.base target)) := by
  refine (fetchRefs_gives server steady).bind ?_
  rw [Replies.resolve]
  cases replies.refs server.client.userAgent server.base <;> exact .pure _

theorem logWalk_gives (steady : w.Steady replies) (setup : Setup) {options : LogOptions}
    (aimed : options.target = some target) (server : Server) :
    Gives (logWalk w.network setup options server)
      (.ok (replies.history server.client.userAgent server.base (setup.depth options.maxDepth)
        (replies.resolve server.client.userAgent server.base target))) := by
  rw [logWalk, aimed]
  exact (startHash_gives steady setup server target).bind
    ((history_gives steady server _ _).bind (.pure _))

/-- The events that a checkpoint appended, if they are asked for, stand behind its line. -/
theorem checkpointTexts_gives (steady : w.Steady replies) (server : Server) (now : Instant)
    (affix : Bool) (c : Checkpoint) :
    ∃ events, (affix = false → events = []) ∧ Gives
      (checkpointTexts w.network server now affix c) (Listing.checkpointLine now c :: events) := by
  rw [checkpointTexts]
  cases hasked : affix && !c.affixHash.isEmpty with
  | false => exact ⟨[], fun _ => rfl, .pure _⟩
  | true =>
      have hnever : affix ≠ false := by
        rintro rfl
        cases hasked
      have answered : ∃ events, Gives (affixTexts w.network server c.affixHash) events := by
        rw [affixTexts]
        have fetched := fetchAffix_gives server steady c.affixHash
        match replies.affix server.client.userAgent server.base c.affixHash, fetched with
        | .ok (some found), fetched => exact ⟨_, fetched.bind (.pure _)⟩
        | .ok none, fetched => exact ⟨_, fetched.bind (.pure _)⟩
        | .error error, fetched => exact ⟨_, fetched.bind (.pure _)⟩
      obtain ⟨events, gives⟩ := answered
      exact ⟨events, fun h => absurd h hnever, gives.bind (.pure _)⟩

/-- The history's lines, with what is listed of each checkpoint behind its line. -/
def loggedTexts (now : Instant) (events : Checkpoint → List String) (h : History) : List String :=
  h.checkpoints.flatMap (fun c => Listing.checkpointLine now c :: events c) ++
    ((Listing.endNote h).map ("\n" ++ ·)).toList

theorem historyTexts_gives (steady : w.Steady replies) (server : Server) (now : Instant)
    (affix : Bool) (h : History) :
    ∃ events : Checkpoint → List String, (affix = false → ∀ c, events c = []) ∧
      Gives (historyTexts w.network server now affix h) (loggedTexts now events h) := by
  choose events plain gives using checkpointTexts_gives steady server now affix
  refine ⟨events, fun hplain c => plain c hplain, ?_⟩
  rw [loggedTexts, List.flatMap]
  exact (Gives.mapM gives h.checkpoints).bind (.pure _)

/-- Only a history without checkpoints is no success. -/
theorem logReport_gives (steady : w.Steady replies) (server : Server) (now : Instant)
    (options : LogOptions) (plain : options.json = false) (h : History) :
    ∃ logged, Gives (logReport w.network now options server (.ok h)) logged ∧
      (logged.failure.isSome = true ↔ h.checkpoints = []) ∧
      (h.checkpoints ≠ [] → ∃ events, (options.affix = false → ∀ c, events c = []) ∧
        logged = .printed (loggedTexts now events h)) := by
  rw [logReport, plain, if_neg Bool.false_ne_true]
  by_cases empty : h.checkpoints = []
  · rw [History.isEmpty, empty]
    exact ⟨_, .pure _, iff_of_true rfl rfl, fun found => absurd rfl found⟩
  · have hfull : h.isEmpty = false := List.isEmpty_eq_false_iff.2 empty
    obtain ⟨events, hplain, gives⟩ := historyTexts_gives steady server now options.affix h
    rw [hfull]
    exact ⟨_, gives.bind (.pure _), iff_of_false Bool.false_ne_true empty,
      fun _ => ⟨events, hplain, rfl⟩⟩

variable {s : Browser.State} {h : History}

theorem historyView_of_checkpoints (shows : s.history = .ofHistory h) (found : h.checkpoints ≠ []) :
    s.historyView now =
      h.checkpoints.map (Listing.checkpointLine now) ++ (Listing.endNote h).toList := by
  have hfull : h.isEmpty = false := List.isEmpty_eq_false_iff.2 found
  have hready : s.history = .ready h := by
    rw [shows, Loadable.ofHistory, hfull]
    cases h.ending <;> rfl
  rw [Browser.State.historyView, hready]
  simp [Browser.State.historyLines, hfull]

theorem apart_of_mem_historyView (shows : s.history = .ofHistory h) (empty : h.checkpoints = [])
    {text : String} (shown : text ∈ s.historyView now) : Listing.Apart text := by
  have failed : Listing.Apart "❌ Failed to load history: " :=
    ⟨['❌', ' ', 'F', 'a', 'i', 'l', 'e', 'd', ' ', 't', 'o'], by decide +kernel⟩
  have blank : Listing.Apart "(no checkpoints)" := ⟨"(no checkpoints)".toList, by decide +kernel⟩
  have hempty : h.isEmpty = true := List.isEmpty_iff.2 empty
  have hcase : s.history = .ready h ∨ ∃ error, s.history = .failed error := by
    rw [shows, Loadable.ofHistory, hempty]
    cases h.ending with
    | fetchFailed hash error => exact .inr ⟨error, rfl⟩
    | _ => exact .inl rfl
  rw [Browser.State.historyView] at shown
  rcases hcase with hready | ⟨error, hfailed⟩
  · rw [hready] at shown
    simp only [Browser.State.historyLines, empty, hempty, List.map_nil, List.nil_append, if_true,
      List.cons_append, List.mem_cons, Option.mem_toList] at shown
    rcases shown with rfl | hnote
    · exact blank
    · exact Listing.apart_endNote hnote
  · rw [hfailed] at shown
    obtain rfl := List.mem_singleton.1 shown
    exact failed.append error

/-- Nothing else that is shown reads like a checkpoint. -/
theorem checkpointLine_mem_historyView_iff (shows : s.history = .ofHistory h) :
    (∃ c, Listing.checkpointLine now c ∈ s.historyView now) ↔ h.checkpoints ≠ [] := by
  constructor
  · rintro ⟨c, hmem⟩ empty
    exact (apart_of_mem_historyView shows empty hmem).ne_checkpointLine rfl
  · intro found
    obtain ⟨c, hc⟩ := List.exists_mem_of_ne_nil _ found
    rw [historyView_of_checkpoints shows found]
    exact ⟨c, List.mem_append_left _ (List.mem_map_of_mem hc)⟩

theorem log_gives {setup : Setup} {options : LogOptions} {report : Report}
    (usable : Url.server setup.settings.serverUrl = .ok base)
    (walks : Gives (logWalk w.network setup options ⟨setup.client, base⟩) (.ok h))
    (reports : Gives (logReport w.network now options ⟨setup.client, base⟩ (.ok h)) report) :
    Gives (log w.network now setup options) report := by
  rw [log_eq, connect_eq usable]
  exact walks.bind reports

/-- What is logged and what is shown of one history. -/
structure Agree (now : Instant) (affix : Bool) (h : History) (logged : Report) (shown : List String) :
    Prop where
  logged_eq : h.checkpoints ≠ [] → ∃ events, (affix = false → ∀ c, events c = []) ∧
    logged = .printed (loggedTexts now events h)
  shown_eq : h.checkpoints ≠ [] →
    shown = h.checkpoints.map (Listing.checkpointLine now) ++ (Listing.endNote h).toList
  failed_iff : logged.failure.isSome = true ↔ ∀ c, Listing.checkpointLine now c ∉ shown

/-- The commands share the settings file, the environment and the server that is given on the command
line, but no session; the worlds share the replies, but nothing else. -/
theorem log_agrees_with_select {w₁ w₂ : World} (steady₁ : w₁.Steady replies)
    (steady₂ : w₂.Steady replies) (store : SettingsStore) (env : Environment) (flag : Option String)
    {session₁ session₂ : String} {logging browsing : Setup}
    (hlogging : logging = .load store env flag session₁)
    (hbrowsing : browsing = .load store env flag session₂)
    (usable : Url.server logging.settings.serverUrl = .ok base)
    (named : target ≠ "") (oneLine : '\n' ∉ target.toList) (trimmed : Text.trim target = target)
    (now : Instant) (affix : Bool) (more : String) :
    ∃ (h : History) (logged asJson : Report) (opening : List String) (c : Browser)
      (later : List (List String)),
      (∀ json, Gives (logWalk w₁.network logging ⟨some target, none, affix, json⟩
        ⟨logging.client, base⟩) (.ok h)) ∧
      Gives (log w₁.network now logging ⟨some target, none, affix, true⟩) asJson ∧ IsJsonOf h asJson ∧
      Gives (log w₁.network now logging ⟨some target, none, affix, false⟩) logged ∧
      Gives (browse w₂.network now browsing (inputLines ("select " ++ target ++ "\n" ++ more)))
        ⟨opening, c.state.historyView now :: later, none⟩ ∧
      c.state.history = .ofHistory h ∧ Agree now affix h logged (c.state.historyView now) := by
  subst hlogging hbrowsing
  let logging := Setup.load store env flag session₁
  let server : Server := ⟨logging.client, base⟩
  let h := replies.history logging.client.userAgent base (logging.depth none)
    (replies.resolve logging.client.userAgent base target)
  have walks (json : Bool) :
      Gives (logWalk w₁.network logging ⟨some target, none, affix, json⟩ server) (.ok h) :=
    logWalk_gives steady₁ logging rfl server
  have json : Gives (logReport w₁.network now ⟨some target, none, affix, true⟩ server (.ok h))
      (jsonReport h) := .pure _
  obtain ⟨logged, reports, hfailed, hlogged⟩ :=
    logReport_gives steady₁ server now ⟨some target, none, affix, false⟩ rfl h
  -- What is read of a setup here is the same in every session.
  obtain ⟨opening, c, later, browses, hhistory⟩ := browse_select_gives steady₂ now
    (.load store env flag session₂) usable named oneLine trimmed more
  have shows : c.state.history = .ofHistory h := hhistory
  refine ⟨h, logged, jsonReport h, opening, c, later, walks, log_gives usable (walks true) json,
    isJsonOf_jsonReport h, log_gives usable (walks false) reports, browses, shows, hlogged,
    historyView_of_checkpoints shows, ?_⟩
  rw [hfailed, ← not_exists, checkpointLine_mem_historyView_iff shows, not_not]

/-- A server with one ref, and a checkpoint without parents wherever one is asked for. -/
def oneRef : Replies := fun url =>
  let body := if url = (Browser.localServer 8080).refs then "\x7b\"main\":\"a\"\x7d" else "\x7b\x7d"
  .answered ⟨200, none, .ok body.toUTF8.toList⟩

/-- A ref by its name, on the server that the command line gives. -/
theorem log_agrees_with_select_for_ref :
    ∃ (logging browsing : Setup) (h : History) (logged asJson : Report) (opening : List String)
      (c : Browser) (later : List (List String)),
      (oneRef.world "first").Steady oneRef ∧ (oneRef.world "second").Steady oneRef ∧
      logging = .load ⟨"cfg", .absent⟩ (fun _ => none) (some "http://[::1]:8080") "one" ∧
      browsing = .load ⟨"cfg", .absent⟩ (fun _ => none) (some "http://[::1]:8080") "other" ∧
      Url.server logging.settings.serverUrl = .ok (Browser.localServer 8080) ∧ "main" ≠ "" ∧
      '\n' ∉ "main".toList ∧ Text.trim "main" = "main" ∧
      Gives (log (oneRef.world "first").network ⟨0, 0, 0⟩ logging ⟨some "main", none, false, true⟩)
        asJson ∧ IsJsonOf h asJson ∧
      Gives (log (oneRef.world "first").network ⟨0, 0, 0⟩ logging ⟨some "main", none, false, false⟩)
        logged ∧
      Gives (browse (oneRef.world "second").network ⟨0, 0, 0⟩ browsing
        (inputLines ("select " ++ "main" ++ "\n" ++ "quit")))
        ⟨opening, c.state.historyView ⟨0, 0, 0⟩ :: later, none⟩ ∧
      h = ⟨"a", [.bare "a"], .root⟩ ∧
      Agree ⟨0, 0, 0⟩ false h logged (c.state.historyView ⟨0, 0, 0⟩) := by
  let logging : Setup := .load ⟨"cfg", .absent⟩ (fun _ => none) (some "http://[::1]:8080") "one"
  have usable : Url.server logging.settings.serverUrl = .ok (Browser.localServer 8080) := by
    decide +kernel
  have walked : ((logWalk (oneRef.world "first").network logging ⟨some "main", none, false, false⟩
      ⟨logging.client, Browser.localServer 8080⟩).run []).1 = .ok ⟨"a", [.bare "a"], .root⟩ := by
    decide +kernel
  have named : "main" ≠ "" := by decide
  have oneLine : '\n' ∉ "main".toList := by decide
  obtain ⟨h, logged, asJson, opening, c, later, walks, logsJson, isJson, logs, browses, -, agree⟩ :=
    log_agrees_with_select (oneRef.world_steady "first") (oneRef.world_steady "second") _ _ _ rfl rfl
      usable named oneLine rfl ⟨0, 0, 0⟩ false "quit"
  have hwalked := Except.ok.inj ((walks false []).symm.trans walked)
  exact ⟨logging, _, h, logged, asJson, opening, c, later, oneRef.world_steady "first",
    oneRef.world_steady "second", rfl, rfl, usable, named, oneLine, rfl, logsJson, isJson, logs, browses,
    hwalked, agree⟩

end

end Command

end Lineage
