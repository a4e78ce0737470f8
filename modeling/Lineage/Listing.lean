import Lineage.Affix
import Lineage.History
import Lineage.RefSet
import Lineage.Time.Age

/-! The lines in which refs, checkpoints and affixes are shown on a terminal. -/

namespace Lineage.Listing

/-- Spaces behind the text, up to `width` characters. -/
def padEnd (width : Nat) (s : String) : String :=
  s ++ String.ofList (List.replicate (width - s.length) ' ')

/-- Spaces before the text, up to `width` characters. -/
def padStart (width : Nat) (s : String) : String :=
  String.ofList (List.replicate (width - s.length) ' ') ++ s

/-- The greatest size of a name in bytes. -/
def nameWidth (refs : RefSet) : Nat :=
  (refs.toList.map fun r => r.name.utf8ByteSize).foldl max 0

def refLine (width : Nat) (default : Option Ref) (r : Ref) : String :=
  let marker := if default.map Ref.name == some r.name then "*" else " "
  marker ++ " " ++ padEnd width r.name ++ "  " ++ Hash.abbreviate r.hash

/-- One line for each ref, the default one marked with a star. -/
def refLines (refs : RefSet) (preferred : Option String) : List String :=
  refs.toList.map (refLine (nameWidth refs) (refs.default? preferred))

/-- Hash, age, session and description. -/
def checkpointLine (now : Instant) (c : Checkpoint) : String :=
  let age := match c.date? with
    | some date => date.age now
    | none => "?"
  let session := match c.session? with
    | some session => Hash.abbreviate session
    | none => "-"
  padEnd 8 c.shortHash ++ "  " ++ padStart 9 age ++ "  " ++ padEnd 8 session ++ "  " ++ c.oneLine

/-- One line for each partition. -/
def affixLines (a : Affix) : List String :=
  a.partitions.toList.map fun (partition, events) =>
    "    " ++ partition ++ ": " ++ ", ".intercalate (events.map Hash.abbreviate)

/-- Why a walk stopped early; nothing is said of a complete history. -/
def endNote (h : History) : Option String :=
  match h.ending with
  | .root => none
  | .missing hash =>
    if hash.isEmpty then some "No checkpoint selected."
    else some ("History ends early: " ++ Hash.abbreviate hash ++ " came back empty.")
  | .fetchFailed hash error =>
    some ("History ends early: could not fetch " ++ Hash.abbreviate hash ++ ": " ++ error)
  | .cycle hash =>
    some ("History ends early: " ++ Hash.abbreviate hash ++ " is its own ancestor.")
  | .depthLimit limit =>
    some s!"Showing the first {limit} checkpoints (use --max-depth to see more)."

end Lineage.Listing
