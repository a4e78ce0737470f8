import Lineage.Time.Instant

/-! How long ago something happened, in one unit. -/

namespace Lineage.Instant

/-- The largest of minute, hour and day that has passed, and how many of it. -/
def age (date now : Instant) : String :=
  let seconds := secondsBetween date now
  if seconds < 0 then "future"
  else if seconds < 60 then "just now"
  else if seconds < 3600 then s!"{seconds / 60}m ago"
  else if seconds < 86400 then s!"{seconds / 3600}h ago"
  else s!"{seconds / 86400}d ago"

end Lineage.Instant
