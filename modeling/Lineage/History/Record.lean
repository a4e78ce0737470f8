import Lineage.History
import Lineage.Json.Value

/-! Histories as JSON. -/

namespace Lineage

def Checkpoint.toJson (c : Checkpoint) : Json :=
  .object
    [("hash", .text c.hash), ("parentHashes", .texts c.parentHashes), ("affixHash", .text c.affixHash),
      ("commandDesc", .text c.commandDesc), ("summary", .text c.summary), ("fields", .ofDict c.fields)]

def Ending.toJson : Ending → Json
  | .root => .object [("reason", .text "root")]
  | .missing hash => .object [("reason", .text "missing"), ("hash", .text hash)]
  | .fetchFailed hash error =>
    .object [("reason", .text "fetchFailed"), ("hash", .text hash), ("error", .text error)]
  | .cycle hash => .object [("reason", .text "cycle"), ("hash", .text hash)]
  | .depthLimit limit => .object [("reason", .text "depthLimit"), ("limit", .ofNat limit)]

def History.toJson (h : History) : Json :=
  .object
    [("start", .text h.start), ("checkpoints", .array (h.checkpoints.map Checkpoint.toJson)),
      ("end", h.ending.toJson)]

end Lineage
