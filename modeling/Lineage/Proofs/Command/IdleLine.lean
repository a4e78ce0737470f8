import Mathlib
import Lineage.Command.Browse
import Lineage.Proofs.Browser.Rest
import Lineage.Proofs.Transfer.Attempts

/-! Lines that ask for nothing new: they show what there is, or are not understood, or name no server. A
conversation is told by its parts: what is said before such a line, the browser that reads it, and what
is said after it. None of these depends on the line. Main statement: in any world, a conversation with
the line and one without it make the same requests, end in the same way and show the same, but for what
is shown for the line itself. -/

namespace Lineage

namespace Browser

/-- Neither a server nor a selection is taken from the line, and it does not end the conversation. -/
def Line.IsIdle : Line → Prop
  | .server url => ∃ fault, Url.server url = .error fault
  | .select _ | .quit => False
  | .refs | .log | .status | .help | .empty | .unknown _ => True

theorem Line.IsIdle.ne_quit {line : Line} (idle : line.IsIdle) : line ≠ .quit := by
  rintro rfl
  exact idle

/-- What is shown for an idle line. -/
def shownFor (b : Browser) (now : Instant) : Line → List String
  | .refs => b.state.refsView
  | .log => b.state.historyView now
  | .status => b.state.statusLines
  | .help => [Command.helpText]
  | .unknown text => ["Unknown command: " ++ text ++ ". Type 'help' for commands."]
  | .server _ | .select _ | .empty | .quit => []

end Browser

namespace Command

open Browser (Line AtRest)

section

variable {m : Type → Type} [Monad m] (net : Network m) (now : Instant)

theorem turn_idle {line : Line} (idle : line.IsIdle) (b : Browser) :
    turn net now b line = pure (b, b.shownFor now line) := by
  cases line with
  | server url =>
      obtain ⟨fault, hserver⟩ := idle
      rw [turn, Browser.setServer, hserver]
      rfl
  | select target => cases idle
  | quit => cases idle
  | _ => rfl

theorem turns_quit {text : String} (h : Line.parse text = .quit) (b : Browser) (rest : List String) :
    turns net now b (text :: rest) = pure [] := by
  rw [turns, h]

theorem turns_cons {text : String} (h : Line.parse text ≠ .quit) (b : Browser) (rest : List String) :
    turns net now b (text :: rest) =
      turn net now b (Line.parse text) >>= fun (c, shown) =>
        turns net now c rest >>= fun more => pure (shown :: more) := by
  rw [turns]
  cases hline : Line.parse text with
  | quit => exact absurd hline h
  | _ => rfl

/-- What is shown for each line, and the browser that reads what follows, unless `quit` came before. -/
def play : Browser → List String → m (List (List String) × Option Browser)
  | b, [] => pure ([], some b)
  | b, text :: rest =>
    if Line.parse text = .quit then pure ([], none)
    else do
      let (c, shown) ← turn net now b (Line.parse text)
      let (more, reader) ← play c rest
      pure (shown :: more, reader)

/-- The lines that follow are read by the browser that the first ones leave. -/
theorem turns_append [LawfulMonad m] (b : Browser) (front rest : List String) :
    turns net now b (front ++ rest) =
      play net now b front >>= fun (shown, reader) =>
        match reader with
        | none => pure shown
        | some c => (shown ++ ·) <$> turns net now c rest := by
  induction front generalizing b with
  | nil => rw [List.nil_append, play, pure_bind]; exact (id_map _).symm
  | cons text front ih =>
      rw [List.cons_append, play]
      by_cases h : Line.parse text = .quit
      · rw [turns_quit net now h, if_pos h, pure_bind]
      · rw [turns_cons net now h, if_neg h, bind_assoc]
        apply bind_congr
        rintro ⟨c, shown⟩
        dsimp only
        rw [ih, bind_assoc, bind_assoc]
        apply bind_congr
        rintro ⟨more, reader⟩
        cases reader with
        | none => simp only [pure_bind]
        | some d => simp only [pure_bind, bind_pure_comp, Functor.map_map, List.cons_append]

theorem turns_idle [LawfulMonad m] {text : String} (idle : (Line.parse text).IsIdle) (b : Browser)
    (rest : List String) :
    turns net now b (text :: rest) =
      (b.shownFor now (Line.parse text) :: ·) <$> turns net now b rest := by
  rw [turns_cons net now idle.ne_quit, turn_idle net now idle, pure_bind]
  exact bind_pure_comp _ _

end

section

variable {σ : Type} (net : Network (StateM σ)) (now : Instant)

theorem turn_atRest {b : Browser} (h : AtRest b) (line : Line) (s : σ) :
    AtRest ((turn net now b line).run s).1.1 := by
  cases line with
  | server url =>
      rw [turn, Browser.setServer]
      cases Url.server url with
      | error fault => exact h
      | ok server => exact h.settle_setServer server s
  | select target => exact h.settle_select (b.state.resolve target) s
  | _ => exact h

theorem openBrowser_atRest (setup : Setup) (s : σ) {b : Browser}
    (opened : ((openBrowser net setup).run s).1 = .ok b) : AtRest b := by
  rw [openBrowser, Browser.setServer] at opened
  cases hserver : Url.server setup.settings.serverUrl with
  | error fault =>
      rw [hserver] at opened
      cases opened
  | ok server =>
      rw [hserver] at opened
      cases opened
      exact (Browser.atRest_start _ _ _).settle_setServer server s

/-- Without `quit` each line has its answer, and a browser at rest reads on. -/
theorem play_atRest {b : Browser} (h : AtRest b) (lines : List String) {s t : σ}
    {shown : List (List String)} {reader : Option Browser}
    (played : (play net now b lines).run s = ((shown, reader), t)) :
    (reader.isSome = true ↔ ∀ text ∈ lines, Line.parse text ≠ .quit) ∧
      ∀ c ∈ reader, AtRest c ∧ shown.length = lines.length := by
  induction lines generalizing b s shown with
  | nil =>
      cases played
      refine ⟨iff_of_true rfl (fun _ hmem => absurd hmem List.not_mem_nil), ?_⟩
      rintro c ⟨⟩
      exact ⟨h, rfl⟩
  | cons text lines ih =>
      by_cases hquit : Line.parse text = .quit
      · rw [play, if_pos hquit] at played
        cases played
        refine ⟨iff_of_false Bool.false_ne_true (fun hall => hall _ List.mem_cons_self hquit), ?_⟩
        rintro c ⟨⟩
      · rcases hturn : (turn net now b (Line.parse text)).run s with ⟨⟨c, own⟩, u⟩
        rcases hrest : (play net now c lines).run u with ⟨⟨more, last⟩, v⟩
        have atRest := turn_atRest net now h (Line.parse text) s
        rw [hturn] at atRest
        rw [play, if_neg hquit, run_bind_of_eq hturn] at played
        dsimp only at played
        rw [run_bind_of_eq hrest] at played
        cases played
        obtain ⟨hquits, hreads⟩ := ih atRest hrest
        rw [List.forall_mem_cons]
        refine ⟨hquits.trans (and_iff_right hquit).symm, fun d hreader => ?_⟩
        obtain ⟨rests, hlength⟩ := hreads d hreader
        exact ⟨rests, congrArg (· + 1) hlength⟩

end

/-- A conversation around one of its lines. -/
structure Spoken where
  greeting : List String
  /-- What is shown for the lines before. -/
  front : List (List String)
  /-- The browser that reads the line, if it comes to that. -/
  reader : Option Browser
  /-- What is shown for the lines after. -/
  back : List (List String)
  failure : Option CommandError

namespace Spoken

/-- With this shown in the line's place. -/
def told (s : Spoken) (own : Browser → List (List String)) : Transcript :=
  ⟨s.greeting, s.front ++ (s.reader.elim [] own ++ s.back), s.failure⟩

/-- Without the line. -/
def without (s : Spoken) : Transcript := s.told fun _ => []

/-- With the line. -/
def around (s : Spoken) (now : Instant) (line : Line) : Transcript :=
  s.told fun b => [b.shownFor now line]

/-- The prompt that the line answers, and what is printed for it. -/
def printed (s : Spoken) (now : Instant) (line : Line) : String :=
  s.reader.elim "" fun b => Transcript.prompt ++ Transcript.linesText (b.shownFor now line)

/-- What is told of the lines before. -/
structure Tells (s : Spoken) (before : List String) : Prop where
  reads_iff : s.reader.isSome = true ↔ s.failure = none ∧ ∀ text ∈ before, Line.parse text ≠ .quit
  atRest : ∀ b ∈ s.reader, AtRest b
  /-- Each has its place. -/
  length_front : s.reader.isSome = true → s.front.length = before.length

theorem Tells.failure {s : Spoken} {before : List String} (h : s.Tells before) {b : Browser}
    (reads : s.reader = some b) : s.failure = none :=
  (h.reads_iff.1 (by rw [reads]; rfl)).1

/-- What is printed around the line does not depend on it. -/
theorem Tells.output_eq {s : Spoken} {before : List String} (h : s.Tells before) (now : Instant) :
    ∃ head tail, s.without.output = head ++ tail ∧
      ∀ line, (s.around now line).output = head ++ s.printed now line ++ tail := by
  cases hreader : s.reader with
  | none =>
      have same (line : Line) : s.around now line = s.without := by
        rw [around, without, told, told, hreader]
        rfl
      refine ⟨s.without.output, "", String.append_empty.symm, fun line => ?_⟩
      rw [same, printed, hreader, Option.elim_none, String.append_empty, String.append_empty]
  | some b =>
      let text (turns : List (List String)) : String :=
        String.join (turns.map fun shown => Transcript.prompt ++ Transcript.linesText shown)
      refine ⟨Transcript.linesText s.greeting ++ text s.front, text s.back ++ Transcript.prompt, ?_,
        fun line => ?_⟩
      · simp [without, told, Transcript.output, h.failure hreader, hreader, text, String.append_assoc]
      · simp [around, told, Transcript.output, h.failure hreader, hreader, text, printed,
          String.append_assoc]

end Spoken

section

variable {m : Type → Type} [Monad m] (net : Network m) (now : Instant) (setup : Setup)
variable (before after : List String)

/-- The conversation around a line, whatever that line is. -/
def speak : m Spoken := do
  match ← openBrowser net setup with
  | .error error => pure ⟨[], [], none, [], some error⟩
  | .ok b => do
    let (front, reader) ← play net now b before
    match reader with
    | none => pure ⟨greeting now b, front, none, [], none⟩
    | some c => do
      let back ← turns net now c after
      pure ⟨greeting now b, front, some c, back, none⟩

variable [LawfulMonad m] {lines : List String} {own : Browser → List (List String)}

/-- Lines that add something of their own, and leave what comes after them as it is. -/
theorem browse_append (h : ∀ c, turns net now c lines = (own c ++ ·) <$> turns net now c after) :
    browse net now setup (before ++ lines) = (·.told own) <$> speak net now setup before after := by
  rw [browse, speak, map_bind]
  apply bind_congr
  intro opened
  cases opened with
  | error error => rw [map_pure]; rfl
  | ok b =>
      dsimp only
      rw [turns_append, bind_assoc, map_bind]
      apply bind_congr
      rintro ⟨front, reader⟩
      cases reader with
      | none => simp only [pure_bind, map_pure, Spoken.told, Option.elim_none, List.append_nil]
      | some c => simp only [h, Functor.map_map, map_bind, map_pure, bind_map_left, Spoken.told,
          Option.elim_some]

theorem browse_without :
    browse net now setup (before ++ after) = Spoken.without <$> speak net now setup before after :=
  browse_append net now setup before after fun _ => (id_map _).symm

theorem browse_around {line : String} (idle : (Line.parse line).IsIdle) :
    browse net now setup (before ++ line :: after) =
      (·.around now (Line.parse line)) <$> speak net now setup before after :=
  browse_append net now setup before after (turns_idle net now idle · after)

end

theorem speak_tells {σ : Type} (net : Network (StateM σ)) (now : Instant) (setup : Setup)
    (before after : List String) (s : σ) : ((speak net now setup before after).run s).1.Tells before := by
  rcases hopened : (openBrowser net setup).run s with ⟨opened, t⟩
  rw [speak, run_bind_of_eq hopened]
  cases opened with
  | error error =>
      refine ⟨iff_of_false Bool.false_ne_true ?_, ?_, fun reads => absurd reads Bool.false_ne_true⟩
      · rintro ⟨⟨⟩, -⟩
      · rintro b ⟨⟩
  | ok b =>
      have atRest := openBrowser_atRest net setup s (congrArg Prod.fst hopened)
      rcases hplay : (play net now b before).run t with ⟨⟨front, reader⟩, u⟩
      obtain ⟨reads, answered⟩ := play_atRest net now atRest before hplay
      dsimp only
      rw [run_bind_of_eq hplay]
      cases reader with
      | none =>
          refine ⟨reads.trans (and_iff_right rfl).symm, ?_, fun reads => absurd reads Bool.false_ne_true⟩
          rintro c ⟨⟩
      | some c =>
          refine ⟨reads.trans (and_iff_right rfl).symm, ?_, fun _ => (answered c rfl).2⟩
          rintro d ⟨⟩
          exact (answered c rfl).1

/-- The reader of the line is at rest: nothing is in flight that a later line could still see. -/
theorem idle_line_leaves_no_trace {line : String} (idle : (Line.parse line).IsIdle) (w : World)
    (now : Instant) (setup : Setup) (before after : List String) (done : Deeds) :
    ∃ (s : Spoken) (deeds : Deeds), (speak w.network now setup before after).run done = (s, deeds) ∧
      (browse w.network now setup (before ++ line :: after)).run done =
        (s.around now (Line.parse line), deeds) ∧
      (browse w.network now setup (before ++ after)).run done = (s.without, deeds) ∧
      s.Tells before ∧
      ∃ head tail, s.without.output = head ++ tail ∧
        (s.around now (Line.parse line)).output = head ++ s.printed now (Line.parse line) ++ tail := by
  rcases hspeak : (speak w.network now setup before after).run done with ⟨s, deeds⟩
  have tells := speak_tells w.network now setup before after done
  rw [hspeak] at tells
  obtain ⟨head, tail, without_eq, around_eq⟩ := tells.output_eq now
  refine ⟨s, deeds, rfl, ?_, ?_, tells, head, tail, without_eq, around_eq _⟩
  · rw [browse_around w.network now setup before after idle, StateT.run_map, hspeak]
    rfl
  · rw [browse_without w.network now setup before after, StateT.run_map, hspeak]
    rfl

/-- Every other request is answered. -/
def everyOther : World where
  reply done _ :=
    if done.requests.length % 2 = 0 then .answered ⟨200, none, .ok "\x7b\"main\":\"a\"\x7d".toUTF8.toList⟩
    else .answered ⟨404, none, .ok []⟩
  draw _ bound := .last bound
  name _ := ""

/-- A server that is not one, between two selections of a ref that come to different histories. -/
theorem idle_line_leaves_no_trace_for_refused_server :
    ∃ (setup : Setup) (s : Spoken) (deeds : Deeds),
      setup = .load ⟨"cfg", .absent⟩ (fun _ => none) (some "http://[::1]:8080") "one" ∧
      (Line.parse "server nowhere").IsIdle ∧
      (browse everyOther.network ⟨0, 0, 0⟩ setup
        (["select main"] ++ "server nowhere" :: ["select main"])).run [] =
          (s.around ⟨0, 0, 0⟩ (Line.parse "server nowhere"), deeds) ∧
      (browse everyOther.network ⟨0, 0, 0⟩ setup (["select main"] ++ ["select main"])).run [] =
        (s.without, deeds) ∧
      s.Tells ["select main"] ∧ s.reader.isSome = true ∧ s.without.turns.Nodup ∧
      deeds.requests.length = 4 := by
  let setup : Setup := .load ⟨"cfg", .absent⟩ (fun _ => none) (some "http://[::1]:8080") "one"
  have idle : (Line.parse "server nowhere").IsIdle := ⟨.relative, by decide +kernel⟩
  obtain ⟨s, deeds, -, withLine, without, tells, -⟩ :=
    idle_line_leaves_no_trace idle everyOther ⟨0, 0, 0⟩ setup ["select main"] ["select main"] []
  have run : (s.without, deeds).1.failure = none ∧ (s.without, deeds).1.turns.Nodup ∧
      (s.without, deeds).2.requests.length = 4 := by
    rw [← without]
    decide +kernel
  have reads : s.reader.isSome = true := tells.reads_iff.2 ⟨run.1, by decide +kernel⟩
  exact ⟨setup, s, deeds, rfl, idle, withLine, without, tells, reads, run.2⟩

end Command

end Lineage
