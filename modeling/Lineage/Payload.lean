import Lineage.Affix
import Lineage.Checkpoint
import Lineage.Json.Record
import Lineage.RefSet

/-! What servers send: checkpoints, affixes and listings of refs as JSON. A server leaves out or nulls
what is empty. -/

namespace Lineage

open Json (Document)

namespace Checkpoint

def memberNames : List String := ["parentHashes", "affixHash", "commandDesc", "summary", "fields"]

def readFields? (d : Document) : Option (Dict String) := do
  let members ← d.members?
  let entries ← members.mapM fun (name, d) => d.text?.map fun s => (name, s)
  some (Dict.ofList entries)

/-- A checkpoint is sent without its hash, which is the one it was asked for by. -/
def ofDocument? (hash : String) (d : Document) : Option Checkpoint := do
  match ← Json.record? memberNames d with
  | [parents, affix, desc, summary, fields] =>
    some
      { hash
        parentHashes := ← Document.orNull [] Document.texts? parents
        affixHash := ← Document.orNull "" Document.text? affix
        commandDesc := ← Document.orNull "" Document.text? desc
        summary := ← Document.orNull "" Document.text? summary
        fields := ← Document.orNull .empty readFields? fields }
  | _ => none

end Checkpoint

namespace Affix

def ofDocument? (hash : String) (d : Document) : Option Affix := do
  let members ← d.members?
  let entries ← members.mapM fun (name, d) =>
    (Document.orNull [] Document.texts? (some d)).map fun events => (name, events)
  some ⟨hash, Dict.ofList entries⟩

end Affix

namespace RefSet

/-- The listing keeps its order. Null lists nothing. -/
def ofDocument? (d : Document) : Option RefSet :=
  match d with
  | .null => some .empty
  | d => do
    let members ← d.members?
    let refs ← members.mapM fun (name, d) => d.text?.map fun hash => (⟨name, hash⟩ : Ref)
    some (ofList refs)

end RefSet

end Lineage
