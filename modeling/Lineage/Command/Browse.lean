import Lineage.Browser
import Lineage.Browser.Line
import Lineage.Browser.View
import Lineage.Command.Report
import Lineage.Text.Split

/-! Browsing: a conversation of typed lines and what is shown for each. -/

namespace Lineage.Command

def helpText : String :=
  "Commands:
  server <url>            browse another server
  refs                    list refs (* marks the default)
  select <ref-or-hash>    show the history of a ref or checkpoint
  log                     show the current history again
  status                  show what the browser is doing
  help                    show this text
  quit                    leave"

section

variable {m : Type → Type} [Monad m]

/-- The browser on the server of the settings, once it has settled. -/
def openBrowser (net : Network m) (setup : Setup) : m (Except CommandError Browser) := do
  let browser := Browser.start setup.client (setup.depth none) setup.settings.defaultRef
  match browser.setServer setup.settings.serverUrl with
  | .error error => pure (.error (.unusableServer setup.settings.serverUrl error))
  | .ok browser => do
    let browser ← browser.settle net
    pure (.ok browser)

def greeting (now : Instant) (browser : Browser) : List String :=
  browser.state.statusLines ++ browser.state.historyView now ++ ["Type 'help' for commands."]

/-- What a line other than `quit` does, and what is shown for it. A server that cannot be read is not
taken. -/
def turn (net : Network m) (now : Instant) (browser : Browser) :
    Browser.Line → m (Browser × List String)
  | .server url =>
    match browser.setServer url with
    | .error _ => pure (browser, [])
    | .ok browser => do
      let browser ← browser.settle net
      pure (browser, browser.state.refsView ++ browser.state.historyView now)
  | .refs => pure (browser, browser.state.refsView)
  | .select target => do
    let browser ← (browser.select target).settle net
    pure (browser, browser.state.historyView now)
  | .log => pure (browser, browser.state.historyView now)
  | .status => pure (browser, browser.state.statusLines)
  | .help => pure (browser, [helpText])
  | .unknown text => pure (browser, ["Unknown command: " ++ text ++ ". Type 'help' for commands."])
  | .empty | .quit => pure (browser, [])

/-- What is shown for each line up to `quit` or the end. -/
def turns (net : Network m) (now : Instant) : Browser → List String → m (List (List String))
  | _, [] => pure []
  | browser, text :: rest =>
    match Browser.Line.parse text with
    | .quit => pure []
    | line => do
      let (browser, shown) ← turn net now browser line
      let more ← turns net now browser rest
      pure (shown :: more)

end

/-- A whole conversation. -/
structure Transcript where
  greeting : List String
  turns : List (List String)
  failure : Option CommandError
  deriving DecidableEq

namespace Transcript

def linesText (lines : List String) : String := String.join (lines.map (· ++ "\n"))

/-- Stands before each line that is typed. -/
def prompt : String := "> "

/-- The last prompt is answered by `quit` or by the end of the input. -/
def output (t : Transcript) : String :=
  linesText t.greeting ++
    if t.failure.isSome then ""
    else String.join (t.turns.map fun shown => prompt ++ linesText shown) ++ prompt

end Transcript

/-- The lines of a text. Each ends in a line feed, but the last one need not. -/
def inputLines (input : String) : List String :=
  let parts := Text.splitOn '\n' input.toList
  let parts := if parts.getLast? == some [] then parts.dropLast else parts
  parts.map String.ofList

def browse {m : Type → Type} [Monad m] (net : Network m) (now : Instant) (setup : Setup)
    (lines : List String) : m Transcript := do
  match ← openBrowser net setup with
  | .error error => pure ⟨[], [], some error⟩
  | .ok browser => do
    let shown ← turns net now browser lines
    pure ⟨greeting now browser, shown, none⟩

end Lineage.Command
