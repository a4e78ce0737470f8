import Lineage.Command.Report
import Lineage.Listing

/-! Listing the refs of a server. -/

namespace Lineage.Command

variable {m : Type → Type} [Monad m]

def refs (net : Network m) (setup : Setup) : m Report := do
  match setup.connect with
  | .error error => pure (.failed error)
  | .ok server =>
    match ← server.fetchRefs net with
    | .error error => pure (.failed (.listingFailed server.base error))
    | .ok refs =>
      if refs.isEmpty then pure (.printed ["No refs on " ++ server.base.text])
      else pure (.printed (Listing.refLines refs setup.settings.defaultRef))

end Lineage.Command
