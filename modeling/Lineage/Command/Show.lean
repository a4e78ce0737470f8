import Lineage.Command.Report
import Lineage.Json.Printer

/-! Printing one object as it is. -/

namespace Lineage.Command

/-- The description of an object that looks like a checkpoint. -/
def describe? (object : Json) : Option String := do
  let _ ← object.member? "parentHashes"
  let encoded ← (← object.member? "commandDesc").text?
  (Checkpoint.decodeDescription encoded).toOption

variable {m : Type → Type} [Monad m]

/-- The object, and after it the command that it describes. -/
def objectTexts (object : Json) : List String :=
  object.pretty :: ((describe? object).map ("\nCommand:\n" ++ ·)).toList

/-- A server answers 500 for an object it does not have. -/
def showObject (net : Network m) (setup : Setup) (hash : String) : m Report := do
  match setup.connect with
  | .error error => pure (.failed error)
  | .ok server =>
    match ← server.fetchObject net hash with
    | .error error =>
      if error.status? = some 500 then pure (.failed (.noObject hash server.base error))
      else pure (.failed (.objectFailed hash error))
    | .ok none => pure (.failed (.objectEmpty hash))
    | .ok (some object) => pure (.printed (objectTexts object))

end Lineage.Command
