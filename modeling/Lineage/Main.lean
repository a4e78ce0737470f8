import Lineage.Command.Browse
import Lineage.Command.Refs
import Lineage.Command.Show
import Lineage.CommandLine
import Lineage.Text.Uuid
import Lineage.Transfer.Message
import Std.Async.DNS
import Std.Async.TCP
import Std.Async.Timer
import Std.Time.DateTime.Timestamp

/-! The program: arguments, environment, files, clock and network of the machine it runs on. Servers
are reached over plain TCP; there is no TLS here, so that `https` servers refuse the connection. -/

namespace Lineage.Main

open Std.Async (Async)
open Std.Net (IPAddr SocketAddress)

def freshUuid : IO String := do
  let bytes ← IO.getRandomBytes 16
  pure (Text.uuid bytes.toList)

def addresses (u : Url) (port : UInt16) : Async (List SocketAddress) := do
  let name := match u.host with
    | .ipv6 groups => String.ofList (Ipv6.text groups)
    | host => String.ofList host.text
  let found ← Std.Async.DNS.getAddrInfo name ""
  pure <| found.toList.map fun
    | .v4 address => .v4 ⟨address, port⟩
    | .v6 address => .v6 ⟨address, port⟩

/-- The first address that takes the connection. -/
def connectTo : List SocketAddress → Async (Option Std.Async.TCP.Socket.Client)
  | [] => pure none
  | address :: rest => do
    let client ← Std.Async.TCP.Socket.Client.mk
    try
      client.connect address
      pure (some client)
    catch _ => connectTo rest

/-- All bytes up to the end of the connection. -/
partial def receive (client : Std.Async.TCP.Socket.Client) (got : ByteArray) : Async ByteArray := do
  match ← client.recv? 65536 with
  | none => pure got
  | some bytes => if bytes.isEmpty then pure got else receive client (got ++ bytes)

/-- The reply to a request on an open connection. -/
def ask (client : Std.Async.TCP.Socket.Client) (r : Request) : Async ByteArray := do
  client.send r.message.toUTF8
  receive client .empty

def answer (r : Request) : Async Outcome := do
  let port := UInt16.ofNat (r.url.port.getD r.url.scheme.defaultPort)
  let reached ← try connectTo (← addresses r.url port) catch _ => pure none
  match reached with
  | none => pure (.failed .refused)
  | some client =>
    try
      let bytes ← ask client r
      pure (Reply.ofBytes bytes.toList)
    catch _ => pure (.failed .closed)

def within (limit : Duration) : Async Outcome := do
  Std.Async.sleep (.ofNat limit.milliseconds)
  pure (.failed .timedOut)

def exchange (limit : Duration) (r : Request) : IO Outcome :=
  match r.url.scheme with
  | .https => pure (.failed .refused)
  | .http => (Async.race (answer r) (within limit)).block

def network (limit : Duration) : Network IO where
  exchange := exchange limit
  draw bound := do
    let n ← IO.rand 0 bound
    pure ⟨min n bound, Nat.lt_succ_of_le (Nat.min_le_right _ _)⟩
  pause d := IO.sleep (UInt32.ofNat (min d.milliseconds (UInt32.size - 1)))
  freshId := freshUuid

def clock : IO Instant := do
  let now ← Std.Time.Timestamp.now
  let nanoseconds := now.toNanosecondsSinceUnixEpoch.val
  let second := Int.fdiv nanoseconds Instant.nanosPerSecond
  pure (Instant.ofUnix second (Int.fmod nanoseconds Instant.nanosPerSecond).toNat)

/-- What stands at a path, as far as reading the file tells. -/
def readFolder (store : SettingsStore) : IO SettingsFolder := do
  match ← (IO.FS.readFile store.filePath).toBaseIO with
  | .ok content => pure (.present (.text content))
  | .error (.noFileOrDirectory ..) => pure .absent
  | .error (.inappropriateType _ code _) => pure (if code == 21 then .present .blocked else .blocked)
  | .error _ => pure (.present .absent)

def writeStore (store : SettingsStore) : IO Unit := do
  match store.content? with
  | none => pure ()
  | some content =>
    if !store.path.isEmpty then IO.FS.createDirAll store.path
    IO.FS.writeFile store.filePath content

/-- The folder of settings in a home directory. -/
def folderIn (home : String) : String :=
  if home.endsWith "/" then home ++ ".retro-cabinet" else home ++ "/.retro-cabinet"

def openStore (configDir : Option String) : IO (Option SettingsStore) := do
  let home ← IO.getEnv "HOME"
  match configDir.or ((home.filter (!·.isEmpty)).map folderIn) with
  | none => pure none
  | some path => do
    let folder ← readFolder ⟨path, .absent⟩
    pure (some ⟨path, folder⟩)

/-- The variables that matter, read once. -/
def environment : IO Environment := do
  let names := [Settings.serverVariable, Settings.refVariable, Settings.depthVariable,
    Setup.agentVariable]
  let values ← names.mapM fun name => do pure (name, ← IO.getEnv name)
  pure fun name => (values.find? (·.1 == name)).bind Prod.snd

def finish (failure : Option CommandError) : IO UInt32 := do
  match failure with
  | none => pure 0
  | some error => do
    IO.eprint error.report
    pure 1

def printReport (report : Report) : IO UInt32 := do
  IO.print report.output
  finish report.failure

/-- Asks for a line and answers it, until there are no more or one says to quit. -/
partial def converse (net : Network IO) (browser : Browser) : IO Unit := do
  let output ← IO.getStdout
  output.putStr Command.Transcript.prompt
  output.flush
  let text ← (← IO.getStdin).getLine
  if text.isEmpty then return
  match Browser.Line.parse text with
  | .quit => pure ()
  | line => do
    let (browser, shown) ← Command.turn net (← clock) browser line
    output.putStr (Command.Transcript.linesText shown)
    converse net browser

def browse (net : Network IO) (setup : Setup) : IO UInt32 := do
  match ← Command.openBrowser net setup with
  | .error error => finish (some error)
  | .ok browser => do
    IO.print (Command.Transcript.linesText (Command.greeting (← clock) browser))
    converse net browser
    pure 0

def refuse (fault : CommandLine.Fault) : IO UInt32 := do
  match fault with
  | .version => IO.print CommandLine.versionText
  | .help => IO.print CommandLine.usageText
  | _ => IO.eprint CommandLine.usageText
  pure (UInt32.ofNat fault.exitCode)

def runConfig (store : SettingsStore) (env : Environment) (action : Option Command.ConfigAction) :
    IO UInt32 := do
  let action := action.getD .show
  let (after, report) := Command.config store env action
  if action != .show && report.failure.isNone then writeStore after
  printReport report

def run (invocation : CommandLine.Invocation) (command : CommandLine.Chosen) : IO UInt32 := do
  match ← openStore invocation.configDir with
  | none => do
    IO.eprint "Error: Could not determine home directory\n"
    pure 1
  | some store => do
    let env ← environment
    let setup := Setup.load store env invocation.server (← freshUuid)
    let net := network setup.settings.timeout
    match command with
    | .config action => runConfig store env action
    | .refs => do printReport (← Command.refs net setup)
    | .log options => do printReport (← Command.log net (← clock) setup options)
    | .show hash => do printReport (← Command.showObject net setup hash)
    | .browse => browse net setup

end Lineage.Main

def main (args : List String) : IO UInt32 := do
  match Lineage.CommandLine.parse args with
  | .error fault => Lineage.Main.refuse fault
  | .ok invocation =>
    match invocation.command with
    | none => do
      IO.eprint Lineage.CommandLine.noCommandText
      pure 0
    | some command => Lineage.Main.run invocation command
