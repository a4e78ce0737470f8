/-! The fewest decimal digits that read back as a given floating-point number. -/

namespace Lineage

/-- `digits * 10 ^ exponent`. -/
structure Decimal where
  digits : Nat
  exponent : Int
  deriving DecidableEq, Repr

/-- A finite magnitude `significand * 2 ^ exponent`, with the reals that round to it. -/
structure Binary where
  significand : Nat
  exponent : Int
  /-- The number below is half as far away as the one above. -/
  narrowBelow : Bool
  deriving DecidableEq, Repr

/-- From the 63 bits of a finite number without its sign. -/
def Binary.ofBits (bits : Nat) : Binary :=
  let fraction : Nat := bits % Nat.pow 2 52
  let field : Nat := bits / Nat.pow 2 52 % Nat.pow 2 11
  if field == 0 then ⟨fraction, -1074, false⟩
  else ⟨fraction + Nat.pow 2 52, (field : Int) - 1075, fraction == 0 && 1 < field⟩

/-- A quarter of the last place of `b`, as a fraction. -/
def Binary.quarter (b : Binary) : Nat × Nat :=
  let e := b.exponent - 2
  if 0 ≤ e then (Nat.pow 2 e.natAbs, 1) else (1, Nat.pow 2 e.natAbs)

/-- A power of ten, as a fraction. -/
def Decimal.power (e : Int) : Nat × Nat :=
  if 0 ≤ e then (Nat.pow 10 e.natAbs, 1) else (1, Nat.pow 10 e.natAbs)

/-- The least power of ten above the number is `10 ^ result`. -/
def Binary.magnitude (b : Binary) : Int :=
  let (num, den) := b.quarter
  let num := num * 4 * b.significand
  let whole := num / den
  if 0 < whole then (Nat.toDigits 10 whole).length
  else 1 - (Nat.toDigits 10 ((den - 1) / num)).length

/-- The point of the grid of step `10 ^ step` that lies nearest to the number among those that read
back as it, if there is one. Of two equally near the even one is taken. -/
def Binary.onGrid? (b : Binary) (step : Int) : Option Decimal :=
  let (qn, qd) := b.quarter
  let (tn, td) := Decimal.power step
  -- In units of `1 / (qd * tn)` of the step.
  let unit := qn * td
  let size := qd * tn
  let value := 4 * b.significand * unit
  let low := (4 * b.significand - (if b.narrowBelow then 1 else 2)) * unit
  let high := (4 * b.significand + 2) * unit
  let closed := b.significand % 2 == 0
  let inside (n : Nat) : Bool :=
    if closed then low ≤ n * size && n * size ≤ high else low < n * size && n * size < high
  let below := value / size
  let above := below + 1
  let toBelow := value - below * size
  let toAbove := above * size - value
  let nearer :=
    if toBelow < toAbove || (toBelow == toAbove && below % 2 == 0) then below else above
  let farther := if nearer == below then above else below
  if inside nearer && 0 < nearer then some ⟨nearer, step⟩
  else if inside farther && 0 < farther then some ⟨farther, step⟩
  else none

/-- Zeros at the end are moved into the exponent; at most `fuel` of them. -/
def Decimal.stripped : (fuel : Nat) → Decimal → Decimal
  | 0, d => d
  | fuel + 1, d =>
    if d.digits % 10 == 0 && 0 < d.digits then stripped fuel ⟨d.digits / 10, d.exponent + 1⟩ else d

/-- Grids of one digit up to seventeen, which always suffice. -/
def Binary.shortest (b : Binary) : Decimal :=
  let found := (List.range 17).findSome? fun n : Nat => b.onGrid? (b.magnitude - 1 - (n : Int))
  (found.getD ⟨0, 0⟩).stripped 20

namespace Decimal

/-- How a number is written out. -/
structure Style where
  /-- Written in full while the point stands after at most so many digits. -/
  maxWhole : Int
  /-- Written in full while at most so many zeros follow the point. -/
  maxZeros : Int
  /-- What marks an exponent that is not negative. -/
  positiveExponent : String

def zeros (n : Nat) : List Char := List.replicate n '0'

def write (style : Style) (d : Decimal) : List Char :=
  let digits := Nat.toDigits 10 d.digits
  let count : Int := digits.length
  let point := count + d.exponent
  if 0 ≤ d.exponent && point ≤ style.maxWhole then digits ++ zeros d.exponent.natAbs ++ ['.', '0']
  else if 0 < point && point ≤ style.maxWhole then
    digits.take point.natAbs ++ '.' :: digits.drop point.natAbs
  else if -style.maxZeros ≤ point && point ≤ 0 then '0' :: '.' :: zeros point.natAbs ++ digits
  else
    let power := point - 1
    let mark := if power < 0 then "e-" else style.positiveExponent
    let mantissa := match digits with
      | first :: second :: rest => first :: '.' :: second :: rest
      | short => short
    mantissa ++ mark.toList ++ Nat.toDigits 10 power.natAbs

/-- The text of a finite number, its sign included. -/
def ofFloat (style : Style) (x : Float) : List Char :=
  let bits := x.toBits.toNat
  let magnitude := bits % Nat.pow 2 63
  let text :=
    if magnitude == 0 then ['0', '.', '0'] else write style (Binary.ofBits magnitude).shortest
  if Nat.pow 2 63 ≤ bits then '-' :: text else text

end Decimal

end Lineage
