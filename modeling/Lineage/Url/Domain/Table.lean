/-! Tables of character properties, and looking characters up in them. -/

namespace Lineage.Domain

/-- Characters from `first` to `last`, each `step` after the one before, and what belongs to them. -/
structure Row where
  first : Nat
  last : Nat
  step : Nat
  values : List Nat

namespace Row

def single (c : Nat) (values : List Nat) : Row := ⟨c, c, 1, values⟩

def holds (r : Row) (n : Nat) : Bool :=
  r.first ≤ n && n ≤ r.last && (n - r.first) % r.step == 0

end Row

/-- The characters from the first to the second of each pair. -/
def ranges (pairs : List (Nat × Nat)) : List Row :=
  pairs.map fun (first, last) => ⟨first, last, 1, []⟩

def find? (table : List Row) (c : Char) : Option Row :=
  table.find? (·.holds c.toNat)

def mem (table : List Row) (c : Char) : Bool :=
  (find? table c).isSome

end Lineage.Domain
