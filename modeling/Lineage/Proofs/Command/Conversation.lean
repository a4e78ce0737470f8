import Mathlib
import Lineage.Command.Browse
import Lineage.Proofs.Browser.Line
import Lineage.Proofs.Browser.Settling

/-! Conversations in a steady world. Each line of the input is one turn, and no turn fails to end. Main
statements: the browser opens on the settings' server; a selection shows the history that is walked
from what the target means on that server. -/

namespace Lineage

namespace Text

/-- The first separator ends the first part. -/
theorem splitOn_append {separator : Char} {part : List Char} (h : separator ∉ part)
    (rest : List Char) : splitOn separator (part ++ separator :: rest) =
      part :: splitOn separator rest := by
  induction part with
  | nil =>
      obtain ⟨first, more, hsplit⟩ := List.exists_cons_of_ne_nil (splitOn_ne_nil separator rest)
      rw [List.nil_append, splitOn, hsplit]
      simp
  | cons c part ih =>
      obtain ⟨hc, hpart⟩ := not_or.1 (List.mem_cons.not.1 h)
      rw [List.cons_append, splitOn, ih hpart]
      simp [Ne.symm hc]

end Text

/-- What a ref's name or a hash means to one who has asked the server for its refs. -/
def Replies.resolve (replies : Replies) (agent : String) (base : Url) (target : String) : String :=
  match replies.refs agent base with
  | .ok refs => refs.resolve target
  | .error _ => target

namespace Command

open Browser

theorem inputLines_append {line : String} (h : '\n' ∉ line.toList) (more : String) :
    inputLines (line ++ "\n" ++ more) = line :: inputLines more := by
  have hchars : (line ++ "\n" ++ more).toList = line.toList ++ '\n' :: more.toList := by
    rw [String.toList_append, String.toList_append, List.append_assoc]
    rfl
  have hparts := Text.splitOn_ne_nil '\n' more.toList
  rw [inputLines, hchars, Text.splitOn_append h, inputLines, List.getLast?_cons_of_ne_nil hparts,
    List.dropLast_cons_of_ne_nil hparts]
  split <;> rw [List.map_cons, String.ofList_toList]

section

variable {w : World} {replies : Replies} {client : Client} {maxDepth : Nat}
variable {preferred : Option String} {trace : Trace} {b : Browser} {base : Url}

/-- Its only command is the choice of the server. -/
theorem openBrowser_gives (steady : w.Steady replies) (setup : Setup)
    (usable : Url.server setup.settings.serverUrl = .ok base) :
    ∃ trace b, Gives (openBrowser w.network setup) (.ok b) ∧
      Faithful replies setup.client (setup.depth none) setup.settings.defaultRef trace b ∧
      trace.commands = [.setServer base] ∧ b.state.isSettled = true := by
  have opened := (Faithful.start replies setup.client (setup.depth none)
    setup.settings.defaultRef).command (.setServer base) rfl
  obtain ⟨trace, b, gives, faithful, hcommands, settled⟩ :=
    opened.settle_gives (show 1 < 2 ^ 63 by decide) steady
  refine ⟨trace, b, ?_, faithful, hcommands, settled⟩
  rw [openBrowser, setServer, usable]
  exact gives.bind (.pure _)

/-- A target means what the server's refs say, and itself where there is no listing. -/
theorem resolve_of_settled (faithful : Faithful replies client maxDepth preferred trace b)
    (short : trace.commands.length < 2 ^ 63) (settled : b.state.isSettled = true)
    (served : lastServer trace.commands = some base) (target : String) :
    b.state.resolve target = replies.resolve client.userAgent base target := by
  have hrefs : b.state.refs = .ofListing (replies.refs client.userAgent base) := by
    change b.state.withoutCount.refs = _
    rw [faithful.state_eq short settled, outcome, served]
    rfl
  rw [State.resolve, hrefs, Replies.resolve]
  cases replies.refs client.userAgent base <;> rfl

theorem turn_select_gives (steady : w.Steady replies) (now : Instant)
    (faithful : Faithful replies client maxDepth preferred trace b)
    (short : trace.commands.length + 1 < 2 ^ 63) (served : lastServer trace.commands = some base)
    (target : String) :
    ∃ c : Browser, Gives (turn w.network now b (.select target)) (c, c.state.historyView now) ∧
      c.state.history =
        .ofHistory (replies.history client.userAgent base maxDepth (b.state.resolve target)) := by
  let commands := .select (b.state.resolve target) :: trace.commands
  have selected := faithful.command (.select (b.state.resolve target)) rfl
  obtain ⟨whole, c, gives, wholeFaithful, hcommands, settled⟩ := selected.settle_gives short steady
  replace hcommands : whole.commands = commands := hcommands
  have hserver : lastServer commands = some base := served
  refine ⟨c, gives.bind (.pure _), ?_⟩
  change c.state.withoutCount.history = _
  rw [wholeFaithful.state_eq (hcommands ▸ short) settled, hcommands, outcome, hserver]
  rfl

theorem turn_gives (steady : w.Steady replies) (now : Instant) (b : Browser) (line : Line) :
    ∃ answer, Gives (turn w.network now b line) answer := by
  have settles (b : Browser) {f : Browser → Browser × List String} :
      ∃ answer, Gives (do let c ← b.settle w.network; pure (f c)) answer := by
    obtain ⟨later, c, gives, -⟩ := settleIn_gives steady (2 * b.inFlight.length) b
    exact ⟨f c, gives.bind (.pure _)⟩
  cases line with
  | server url =>
      rw [turn]
      cases b.setServer url with
      | error => exact ⟨_, .pure _⟩
      | ok opened => exact settles opened
  | select target => exact settles (b.select target)
  | _ => exact ⟨_, .pure _⟩

theorem turns_gives (steady : w.Steady replies) (now : Instant) (b : Browser) (lines : List String) :
    ∃ shown, Gives (turns w.network now b lines) shown := by
  induction lines generalizing b with
  | nil => exact ⟨[], .pure []⟩
  | cons text rest ih =>
      have next (line : Line) (f : Browser × List String → StateM Deeds (List (List String)))
          (hf : ∀ c shown, f (c, shown) = turns w.network now c rest >>= fun more => pure (shown :: more)) :
          ∃ shown, Gives (turn w.network now b line >>= f) shown := by
        obtain ⟨⟨c, shown⟩, gives⟩ := turn_gives steady now b line
        obtain ⟨more, gives'⟩ := ih c
        have rest : Gives (f (c, shown)) (shown :: more) := by
          rw [hf]
          exact gives'.bind (.pure (shown :: more))
        exact ⟨shown :: more, gives.bind rest⟩
      rw [turns]
      cases Line.parse text with
      | quit => exact ⟨[], .pure []⟩
      | _ => exact next _ _ fun _ _ => rfl

/-- The first line of the input selects, once the browser is open. -/
theorem browse_select_gives (steady : w.Steady replies) (now : Instant) (setup : Setup)
    (usable : Url.server setup.settings.serverUrl = .ok base) {target : String} (named : target ≠ "")
    (oneLine : '\n' ∉ target.toList) (trimmed : Text.trim target = target) (more : String) :
    ∃ (shown : List String) (c : Browser) (later : List (List String)),
      Gives (browse w.network now setup (inputLines ("select " ++ target ++ "\n" ++ more)))
        ⟨shown, c.state.historyView now :: later, none⟩ ∧
      c.state.history = .ofHistory (replies.history setup.client.userAgent base (setup.depth none)
        (replies.resolve setup.client.userAgent base target)) := by
  obtain ⟨trace, b, opens, faithful, hcommands, settled⟩ := openBrowser_gives steady setup usable
  have short : trace.commands.length + 1 < 2 ^ 63 := by
    rw [hcommands, List.length_singleton]
    decide
  have served : lastServer trace.commands = some base := by rw [hcommands]; rfl
  obtain ⟨c, selects, hhistory⟩ := turn_select_gives steady now faithful short served target
  obtain ⟨later, rests⟩ := turns_gives steady now c (inputLines more)
  rw [resolve_of_settled faithful (by omega) settled served] at hhistory
  refine ⟨greeting now b, c, later, ?_, hhistory⟩
  have single : '\n' ∉ ("select " ++ target).toList := by
    rw [String.toList_append]
    exact fun h => (List.mem_append.1 h).elim (by decide) oneLine
  rw [inputLines_append single, browse]
  refine opens.bind (Gives.bind ?_ (.pure _))
  rw [turns, Line.parse_select named trimmed]
  exact selects.bind (rests.bind (.pure _))

end

end Command

end Lineage
