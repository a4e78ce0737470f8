/-! Punycode: a label of any characters as letters, digits and hyphens. The ASCII characters come first,
then, as variable-length numbers to the base 36, where the others are put back in. -/

namespace Lineage.Punycode

def base : Nat := 36

def digitChar (d : Nat) : Char :=
  if d < 26 then Char.ofNat ('a'.toNat + d) else Char.ofNat ('0'.toNat + d - 26)

def digitValue? (c : Char) : Option Nat :=
  if c.isLower then some (c.toNat - 'a'.toNat)
  else if c.isUpper then some (c.toNat - 'A'.toNat)
  else if c.isDigit then some (c.toNat - '0'.toNat + 26)
  else none

/-- A digit below the threshold of its place ends a number. -/
def threshold (place bias : Nat) : Nat :=
  min 26 (max 1 (place - bias))

/-- Divides by 35 until at most 455 is left; adds the base to `k` each time. -/
def damped (fuel delta k : Nat) : Nat :=
  match fuel with
  | 0 => k
  | fuel + 1 => if 455 < delta then damped fuel (delta / 35) (k + base) else k + 36 * delta / (delta + 38)

/-- The bias for the next number, after `delta` when there are `count` characters. -/
def adapt (delta count : Nat) (first : Bool) : Nat :=
  let delta := if first then delta / 700 else delta / 2
  let delta := delta + delta / count
  damped delta delta 0

/-- A number from its lowest place on; at most `fuel` digits. -/
def number (bias : Nat) : (fuel place n : Nat) → List Char
  | 0, _, _ => []
  | fuel + 1, place, n =>
    let t := threshold place bias
    if n < t then [digitChar n]
    else digitChar (t + (n - t) % (base - t)) :: number bias fuel (place + base) ((n - t) / (base - t))

structure Encoder where
  written : List Char
  delta : Nat
  bias : Nat
  handled : Nat

/-- One pass over the label for the code point `n`. -/
def Encoder.pass (basic n : Nat) (e : Encoder) (c : Char) : Encoder :=
  if c.toNat < n then { e with delta := e.delta + 1 }
  else if c.toNat == n then
    { written := e.written ++ number e.bias (e.delta + 1) base e.delta, delta := 0,
      bias := adapt e.delta (e.handled + 1) (e.handled == basic), handled := e.handled + 1 }
  else e

/-- The code points from ascending `points` are put in, one after another; `n` is the least not yet
handled. -/
def Encoder.run (label : List Char) (basic : Nat) : (points : List Nat) → (n : Nat) → Encoder → Encoder
  | [], _, e => e
  | m :: rest, n, e =>
    let e := { e with delta := e.delta + (m - n) * (e.handled + 1) }
    let e := label.foldl (pass basic m) e
    run label basic rest (m + 1) { e with delta := e.delta + 1 }

/-- Ascending and without repetition. -/
def ascending (points : List Nat) : List Nat :=
  points.foldr (fun x l => l.takeWhile (· < x) ++ x :: l.dropWhile (· ≤ x)) []

def encode (label : List Char) : List Char :=
  let plain := label.filter (·.toNat < 128)
  let points := ascending ((label.filter (128 ≤ ·.toNat)).map Char.toNat)
  let e := Encoder.run label plain.length points 128 ⟨[], 0, 72, plain.length⟩
  (if plain.isEmpty then [] else plain ++ ['-']) ++ e.written

structure Decoder where
  chars : List Char
  point : Nat
  index : Nat
  /-- The index at which the open number began. -/
  start : Nat
  weight : Nat
  place : Nat
  bias : Nat

/-- Indices and weights are below 2^32. -/
def Decoder.step (s : Decoder) (c : Char) : Option Decoder :=
  (digitValue? c).bind fun d =>
    let t := threshold s.place s.bias
    let index := s.index + d * s.weight
    if UInt32.size ≤ index then none
    else if d < t then
      let count := s.chars.length + 1
      let point := s.point + index / count
      let position := index % count
      if point < 0xD800 || (0xDFFF < point && point < 0x110000) then
        some
          { chars := s.chars.take position ++ Char.ofNat point :: s.chars.drop position
            point, index := position + 1, start := position + 1, weight := 1, place := base
            bias := adapt (index - s.start) count (s.start == 0) }
      else none
    else if UInt32.size ≤ s.weight * (base - t) then none
    else some { s with index, weight := s.weight * (base - t), place := s.place + base }

/-- `none` for a text that is no Punycode. The last hyphen parts the two halves, and then the first is not
empty. -/
def decode? (text : List Char) : Option (List Char) :=
  let tail := (text.reverse.takeWhile (· != '-')).reverse
  let plain := text.take (text.length - tail.length - 1)
  if plain.any (128 ≤ ·.toNat) || (plain.isEmpty && tail.length < text.length) then none
  else do
    let s ← tail.foldlM Decoder.step ⟨plain, 128, 0, 0, 1, base, 72⟩
    if s.weight == 1 && s.place == base then some s.chars else none

end Lineage.Punycode
