/-! Instants in UTC. A leap second belongs to the second before it and has nanoseconds from 10⁹ on. -/

namespace Lineage

structure Instant where
  /-- Days since 1970-01-01. -/
  day : Int
  /-- Seconds since midnight. -/
  second : Nat
  nanosecond : Nat
  deriving DecidableEq, Repr

namespace Instant

def secondsPerDay : Nat := 86400

def nanosPerSecond : Nat := 1000000000

/-- From seconds since the start of 1970. -/
def ofUnix (seconds : Int) (nanosecond : Nat) : Instant :=
  ⟨Int.fdiv seconds secondsPerDay, (Int.fmod seconds secondsPerDay).toNat, nanosecond⟩

/-- Seconds since the start of 1970. -/
def unixSeconds (t : Instant) : Int :=
  t.day * secondsPerDay + t.second

/-- The nanoseconds from `a` to `b`. A leap second that ends between two times of day counts: one
more second when it belongs to `a`, one less when it belongs to `b`. -/
def nanosBetween (a b : Instant) : Int :=
  let days := (b.day - a.day) * secondsPerDay
  let seconds : Int := (b.second : Int) - a.second
  let leap : Int :=
    if a.second < b.second && nanosPerSecond ≤ a.nanosecond then 1
    else if b.second < a.second && nanosPerSecond ≤ b.nanosecond then -1
    else 0
  (days + seconds + leap) * nanosPerSecond + ((b.nanosecond : Int) - a.nanosecond)

/-- Whole seconds from `a` to `b`, a part of a second dropped. -/
def secondsBetween (a b : Instant) : Int :=
  Int.tdiv (nanosBetween a b) nanosPerSecond

end Instant

end Lineage
