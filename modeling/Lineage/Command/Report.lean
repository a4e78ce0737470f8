import Lineage.Server
import Lineage.Settings.Store

/-! What a command leaves: the texts it printed, each on lines of its own, and why it failed if it did. -/

namespace Lineage

inductive CommandError
  | unusableServer (raw : String) (cause : RequestError)
  | listingFailed (server : Url) (cause : RequestError)
  /-- There is no ref to start from. -/
  | noRefs
  | noListing
  | noHistory (start reason : String)
  | noObject (hash : String) (server : Url) (cause : RequestError)
  | objectFailed (hash : String) (cause : RequestError)
  | objectEmpty (hash : String)
  | serverRefused (cause : RequestError)
  | store (fault : StoreFault)
  deriving DecidableEq

namespace CommandError

/-- What went wrong, followed by the cause of that. -/
def chain : CommandError → List String
  | .unusableServer raw cause => ["Cannot use server " ++ raw, cause.message]
  | .listingFailed server cause => ["Failed to list refs of " ++ server.text, cause.message]
  | .noRefs => ["The server has no refs; pass a checkpoint hash instead"]
  | .noListing => ["No ref listing available; pass a checkpoint hash"]
  | .noHistory start reason => ["No history for " ++ start ++ ". " ++ reason]
  | .noObject hash server cause => ["No object " ++ hash ++ " on " ++ server.text, cause.message]
  | .objectFailed hash cause => ["Failed to fetch object " ++ hash, cause.message]
  | .objectEmpty hash => ["Object " ++ hash ++ " came back empty"]
  | .serverRefused cause => ["Refusing to store server URL", cause.message]
  | .store fault => fault.chain

/-- The first line says what went wrong, the others why. -/
def report (e : CommandError) : String :=
  match e.chain with
  | [] => ""
  | [outer] => "Error: " ++ outer ++ "\n"
  | [outer, cause] => "Error: " ++ outer ++ "\n\nCaused by:\n    " ++ cause ++ "\n"
  | outer :: causes =>
    "Error: " ++ outer ++ "\n\nCaused by:\n"
      ++ String.join (causes.zipIdx.map fun (cause, i) => s!"    {i}: " ++ cause ++ "\n")

end CommandError

structure Report where
  texts : List String
  failure : Option CommandError
  deriving DecidableEq

namespace Report

def printed (texts : List String) : Report := ⟨texts, none⟩

def failed (error : CommandError) : Report := ⟨[], some error⟩

/-- All that was printed. -/
def output (r : Report) : String := String.join (r.texts.map (· ++ "\n"))

end Report

/-- What a command that talks to a server runs with. -/
structure Setup where
  settings : Settings
  client : Client
  deriving DecidableEq

namespace Setup

def agentVariable : String := "RETRO_CABINET_USER_AGENT"

def defaultAgent : String := "retro-cabinet/0.1.0"

/-- A server given on the command line comes before one from the environment, that before the file's. -/
def load (store : SettingsStore) (env : Environment) (server : Option String) (sessionId : String) :
    Setup :=
  let stored := store.load.withEnvironment env
  let settings := { stored with serverUrl := server.getD stored.serverUrl }
  ⟨settings, ⟨(env agentVariable).getD defaultAgent, sessionId, settings.retryPolicy⟩⟩

def connect (s : Setup) : Except CommandError Server :=
  (Server.connect s.client s.settings.serverUrl).mapError (.unusableServer s.settings.serverUrl)

/-- The most checkpoints in one history, unless the command says otherwise. -/
def depth (s : Setup) (asked : Option UInt64) : Nat :=
  (asked.getD s.settings.maxDepth).toNat

end Setup

end Lineage
