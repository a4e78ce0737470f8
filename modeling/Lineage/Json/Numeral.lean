/-! Number literals of JSON. -/

namespace Lineage.Json

/-- A literal by its digits. An exponent of `none` was not written. -/
structure Numeral where
  negative : Bool
  whole : List Nat
  fraction : List Nat
  exponent : Option Int
  deriving DecidableEq, Repr

namespace Numeral

def digitValue (c : Char) : Nat := c.toNat - '0'.toNat

def ofDigits (digits : List Nat) : Nat :=
  digits.foldl (fun n d => n * 10 + d) 0

/-- Digits with nothing behind them, at least one. -/
def exponentDigits? (cs : List Char) : Option Nat :=
  if !cs.isEmpty && cs.all Char.isDigit then some (ofDigits (cs.map digitValue)) else none

/-- What may follow the digits and the fraction. -/
def exponent? : List Char → Option (Option Int)
  | [] => some none
  | c :: cs =>
    if c == 'e' || c == 'E' then
      match cs with
      | '+' :: cs => (exponentDigits? cs).map fun n => some (n : Int)
      | '-' :: cs => (exponentDigits? cs).map fun n => some (-(n : Int))
      | cs => (exponentDigits? cs).map fun n => some (n : Int)
    else none

/-- A point is followed by at least one digit. -/
def fraction? : List Char → Option (List Nat × List Char)
  | '.' :: cs =>
    let digits := cs.takeWhile Char.isDigit
    if digits.isEmpty then none else some (digits.map digitValue, cs.dropWhile Char.isDigit)
  | cs => some ([], cs)

/-- At least one digit, and no zero before others. -/
def whole? (cs : List Char) : Option (List Nat × List Char) :=
  let digits := cs.takeWhile Char.isDigit
  match digits with
  | [] => none
  | '0' :: _ :: _ => none
  | _ => some (digits.map digitValue, cs.dropWhile Char.isDigit)

def unsigned? (negative : Bool) (cs : List Char) : Option Numeral := do
  let (whole, cs) ← whole? cs
  let (fraction, cs) ← fraction? cs
  let exponent ← exponent? cs
  some ⟨negative, whole, fraction, exponent⟩

def ofChars? : List Char → Option Numeral
  | '-' :: cs => unsigned? true cs
  | cs => unsigned? false cs

/-- The literal of an integer. -/
def ofInt (n : Int) : Numeral :=
  ⟨n < 0, (Nat.toDigits 10 n.natAbs).map digitValue, [], none⟩

/-- Neither a fraction nor an exponent was written. -/
def isWhole (n : Numeral) : Bool :=
  n.fraction.isEmpty && n.exponent.isNone

end Numeral

/-- A number as JSON values hold it. -/
inductive Number
  | integer (value : Int)
  | float (value : Float)
  deriving Repr

namespace Numeral

/-- The greatest significand that is read digit by digit. -/
def maxSignificand : Nat := UInt64.size - 1

/-- The digits of the whole part as far as the significand has room, and how many are left over. -/
def gatherWhole : (significand : Nat) → List Nat → Nat × Nat
  | s, [] => (s, 0)
  | s, d :: ds => if maxSignificand < s * 10 + d then (s, ds.length + 1) else gatherWhole (s * 10 + d) ds

/-- The digits of the fraction as far as there is room, and how many they are. -/
def gatherFraction : (significand : Nat) → List Nat → Nat × Nat
  | s, [] => (s, 0)
  | s, d :: ds =>
    if maxSignificand < s * 10 + d then (s, 0)
    else
      let (s, taken) := gatherFraction (s * 10 + d) ds
      (s, taken + 1)

/-- The greatest power of ten in one scaling step. -/
def maxPower : Nat := 308

def powerOfTen (k : Nat) : Float := Float.ofScientific 1 false k

/-- `f` divided by `10 ^ k`, rounding at each step. -/
def scaleDown (f : Float) (k : Nat) : Float :=
  if k ≤ maxPower then f / powerOfTen k
  else if k ≤ 2 * maxPower then f / powerOfTen maxPower / powerOfTen (k - maxPower)
  else 0.0

/-- Significand and power of ten, scaled as floating-point numbers; `none` when out of range. -/
def scaled? (significand : Nat) (exponent : Int) : Option Float :=
  let f := (UInt64.ofNat significand).toFloat
  if significand == 0 then some 0.0
  else if exponent < 0 then some (scaleDown f exponent.natAbs)
  else if (maxPower : Int) < exponent then none
  else
    let g := f * powerOfTen exponent.natAbs
    if g.isInf then none else some g

/-- The nearest number that fits: whole literals from -2⁶³ to 2⁶⁴ - 1 are integers, except `-0`; the
rest are floats, and a literal beyond the greatest float has no value. -/
def value? (n : Numeral) : Option Number :=
  let (s, spare) := gatherWhole 0 n.whole
  if n.isWhole && spare == 0 && !n.negative then some (.integer s)
  else if n.isWhole && spare == 0 && s != 0 && s ≤ UInt64.size / 2 then some (.integer (-(s : Int)))
  else
    let (s, taken) := gatherFraction s n.fraction
    let exponent := (spare : Int) - taken + n.exponent.getD 0
    (scaled? s exponent).map fun f => .float (if n.negative then -f else f)

/-- A whole literal without sign below 2⁶⁴. -/
def word? (n : Numeral) : Option UInt64 :=
  let v := ofDigits n.whole
  if n.isWhole && !n.negative && v ≤ maxSignificand then some (UInt64.ofNat v) else none

end Numeral

end Lineage.Json
