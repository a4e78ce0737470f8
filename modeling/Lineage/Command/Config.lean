import Lineage.Command.Report

/-! Showing and changing stored settings. -/

namespace Lineage.Command

inductive ConfigAction
  | show
  | setServer (url : String)
  | setDefaultRef (name : String)
  | clearDefaultRef
  deriving DecidableEq, Repr

def settingsLines (store : SettingsStore) (s : Settings) : List String :=
  ["Settings file: " ++ store.filePath,
    "   Server URL: " ++ s.serverUrl,
    "   Default ref: " ++ s.defaultRef.getD "(last ref listed by the server)",
    s!"   Max depth: {s.maxDepth.toNat}",
    s!"   Timeout: {s.timeoutSecs.toNat}s",
    s!"   Max retries: {s.maxRetries.toNat}"]

/-- Changes are made to what is stored; only showing looks at the environment. -/
def change (store : SettingsStore) (heading : List String) (f : Settings → Settings) :
    SettingsStore × Report :=
  match store.update f with
  | .error fault => (store, .failed (.store fault))
  | .ok (store, settings) => (store, .printed (heading ++ settingsLines store settings))

def config (store : SettingsStore) (env : Environment) : ConfigAction → SettingsStore × Report
  | .show => (store, .printed (settingsLines store (store.load.withEnvironment env)))
  | .setServer url =>
    match Url.server url with
    | .error fault => (store, .failed (.serverRefused (.invalidUrl url fault)))
    | .ok server =>
      change store ["✅ Server set to " ++ server.text] fun s => { s with serverUrl := Text.trim url }
  | .setDefaultRef name => change store [] fun s => { s with defaultRef := some name }
  | .clearDefaultRef => change store [] fun s => { s with defaultRef := none }

end Lineage.Command
