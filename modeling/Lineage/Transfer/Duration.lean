/-! Lengths of time up to 2⁶⁴ seconds, in nanoseconds. Arithmetic stops at the greatest one. -/

namespace Lineage

def maxNanoseconds : Nat := UInt64.size * 1000000000 - 1

structure Duration where
  nanoseconds : Nat
  le_max : nanoseconds ≤ maxNanoseconds
  deriving DecidableEq, Repr

namespace Duration

/-- The given length, or the greatest there is. -/
def ofNanoseconds (n : Nat) : Duration :=
  ⟨min n maxNanoseconds, Nat.min_le_right _ _⟩

def ofSeconds (n : Nat) : Duration := ofNanoseconds (n * 1000000000)

def ofMilliseconds (n : Nat) : Duration := ofNanoseconds (n * 1000000)

def zero : Duration := ⟨0, Nat.zero_le _⟩

def seconds (d : Duration) : Nat := d.nanoseconds / 1000000000

/-- Nanoseconds beyond the whole seconds. -/
def subsecond (d : Duration) : Nat := d.nanoseconds % 1000000000

def milliseconds (d : Duration) : Nat := d.nanoseconds / 1000000

def scale (d : Duration) (k : Nat) : Duration := ofNanoseconds (d.nanoseconds * k)

def add (a b : Duration) : Duration := ofNanoseconds (a.nanoseconds + b.nanoseconds)

instance : LE Duration := ⟨fun a b => a.nanoseconds ≤ b.nanoseconds⟩

theorem ext_nanoseconds {a b : Duration} (h : a.nanoseconds = b.nanoseconds) : a = b := by
  cases a; cases b; cases h; rfl

@[simp] theorem nanoseconds_scale (d : Duration) (k : Nat) :
    (d.scale k).nanoseconds = min (d.nanoseconds * k) maxNanoseconds := rfl

@[simp] theorem nanoseconds_add (a b : Duration) :
    (a.add b).nanoseconds = min (a.nanoseconds + b.nanoseconds) maxNanoseconds := rfl

/-- A decimal fraction without the zeros at its end; `places` digits from `n`. -/
def fraction (places n : Nat) : String :=
  let digits := toString n
  let filled := List.replicate (places - digits.length) '0' ++ digits.toList
  let kept := (filled.reverse.dropWhile (· == '0')).reverse
  if kept.isEmpty then "" else "." ++ String.ofList kept

/-- In the largest of seconds, milliseconds, microseconds and nanoseconds of which there is a whole. -/
def text (d : Duration) : String :=
  let n := d.nanoseconds
  if 1000000000 ≤ n then toString (n / 1000000000) ++ fraction 9 (n % 1000000000) ++ "s"
  else if 1000000 ≤ n then toString (n / 1000000) ++ fraction 6 (n % 1000000) ++ "ms"
  else if 1000 ≤ n then toString (n / 1000) ++ fraction 3 (n % 1000) ++ "µs"
  else toString n ++ "ns"

end Duration

end Lineage
