import Lineage.History.Walk
import Lineage.Json.Printer
import Lineage.Json.Record
import Lineage.Transfer.Retry

/-! Settings, their JSON, and what the environment changes in them. -/

namespace Lineage

open Json (Document)

structure Settings where
  serverUrl : String
  defaultRef : Option String
  maxDepth : UInt64
  timeoutSecs : UInt64
  maxRetries : UInt64
  deriving DecidableEq, Repr

/-- The variables of a process, by name. -/
abbrev Environment := String → Option String

namespace Settings

def default : Settings :=
  { serverUrl := "http://localhost:8080", defaultRef := none
    maxDepth := UInt64.ofNat History.defaultDepth, timeoutSecs := 30
    maxRetries := UInt64.ofNat RetryPolicy.defaultRetries }

def memberNames : List String := ["serverUrl", "defaultRef", "maxDepth", "timeoutSecs", "maxRetries"]

/-- The default's value stands for one that is absent. -/
def orDefault {α : Type} (fallback : α) (read : Document → Option α) : Option Document → Option α
  | none => some fallback
  | some d => read d

def readRef? : Document → Option (Option String)
  | .null => some none
  | d => d.text?.map some

def ofDocument? (d : Document) : Option Settings := do
  match ← Json.record? memberNames d with
  | [server, ref, depth, timeout, retries] =>
    some
      { serverUrl := ← orDefault default.serverUrl Document.text? server
        defaultRef := ← orDefault default.defaultRef readRef? ref
        maxDepth := ← orDefault default.maxDepth Document.word? depth
        timeoutSecs := ← orDefault default.timeoutSecs Document.word? timeout
        maxRetries := ← orDefault default.maxRetries Document.word? retries }
  | _ => none

def parse? (text : String) : Option Settings :=
  (Document.parse? text).bind ofDocument?

/-- An absent default ref is left out. -/
def toJson (s : Settings) : Json :=
  let ref := match s.defaultRef with
    | some name => [("defaultRef", .text name)]
    | none => []
  .object <| [("serverUrl", .text s.serverUrl)] ++ ref ++
    [("maxDepth", .ofNat s.maxDepth.toNat), ("timeoutSecs", .ofNat s.timeoutSecs.toNat),
      ("maxRetries", .ofNat s.maxRetries.toNat)]

def render (s : Settings) : String := s.toJson.pretty

def serverVariable : String := "RETRO_CABINET_SERVER_URL"
def refVariable : String := "RETRO_CABINET_DEFAULT_REF"
def depthVariable : String := "RETRO_CABINET_MAX_DEPTH"

/-- A variable that is set to something other than blanks. -/
def nonBlank? (env : Environment) (name : String) : Option String :=
  (env name).filter (!Text.isAllBlank ·)

/-- Digits, with a plus sign in front or without, of a number below 2⁶⁴. -/
def parseWord? (cs : List Char) : Option UInt64 :=
  let digits := match cs with
    | '+' :: rest => rest
    | cs => cs
  if digits.isEmpty || !digits.all Char.isDigit then none
  else
    let n := digits.foldl (fun n c => n * 10 + (c.toNat - '0'.toNat)) 0
    if n < UInt64.size then some (UInt64.ofNat n) else none

/-- The depth that the environment asks for, if that is a positive number. -/
def depthOverride? (env : Environment) : Option UInt64 :=
  ((env depthVariable).bind fun raw => parseWord? (Text.trimmed raw.toList)).filter (0 < ·)

def withEnvironment (s : Settings) (env : Environment) : Settings :=
  { s with
    serverUrl := (nonBlank? env serverVariable).getD s.serverUrl
    defaultRef := (nonBlank? env refVariable).or s.defaultRef
    maxDepth := (depthOverride? env).getD s.maxDepth }

/-- At least a second. -/
def timeout (s : Settings) : Duration :=
  .ofSeconds (max 1 s.timeoutSecs.toNat)

def retryPolicy (s : Settings) : RetryPolicy :=
  if s.maxRetries = 0 then .none else .upTo s.maxRetries.toNat

theorem maxRetries_retryPolicy (s : Settings) : s.retryPolicy.maxRetries = s.maxRetries.toNat := by
  rw [retryPolicy]
  split
  · rename_i hzero
    rw [hzero]
    rfl
  · rfl

end Settings

end Lineage
