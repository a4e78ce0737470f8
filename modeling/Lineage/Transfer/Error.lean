import Lineage.Text.Blank
import Lineage.Transfer.Exchange

/-! Failures of requests. -/

namespace Lineage

/-- Why a body is not what was asked for. -/
inductive DecodeFault
  | notJson
  | otherShape
  deriving DecidableEq, Repr

def DecodeFault.message : DecodeFault → String
  | .notJson => "not one JSON value"
  | .otherShape => "not the expected members"

inductive RequestError
  | invalidUrl (raw : String) (fault : UrlFault)
  | transport (url : String) (fault : TransferFault)
  | status (url : String) (status : Nat) (body : String)
  | undecodable (url : String) (fault : DecodeFault)
  deriving DecidableEq, Repr

namespace RequestError

/-- A body is quoted only if there is something in it. -/
def quotedBody (body : String) : String :=
  let body := Text.trim body
  if body.isEmpty then "" else ": " ++ body

def message : RequestError → String
  | .invalidUrl raw fault => "invalid server URL " ++ raw ++ ": " ++ fault.reason
  | .transport url fault => "request to " ++ url ++ " failed: " ++ fault.message
  | .status url code body => url ++ " returned HTTP " ++ toString code ++ quotedBody body
  | .undecodable url fault => "could not decode response from " ++ url ++ ": " ++ fault.message

/-- The server's status, if it answered with one. -/
def status? : RequestError → Option Nat
  | .status _ code _ => some code
  | _ => none

/-- The same request might succeed later. -/
def isTransient : RequestError → Bool
  | .transport _ fault => fault.isTransient
  | .status _ code _ => Reply.isTransientStatus code
  | .invalidUrl .. | .undecodable .. => false

end RequestError

end Lineage
