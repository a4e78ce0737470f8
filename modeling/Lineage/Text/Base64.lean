/-! Base64 with the standard alphabet, in its canonical form only: padded to whole groups of four,
and no bits set beyond the last byte. -/

namespace Lineage.Text.Base64

/-- Why a text is no canonical base64. Offsets count bytes from zero. -/
inductive DecodeError
  | invalidByte (offset : Nat) (byte : UInt8)
  /-- One symbol stands alone in the last group; it cannot hold a byte. -/
  | danglingSymbol
  /-- The last symbol has bits set that belong to no byte. -/
  | invalidLastSymbol (offset : Nat) (byte : UInt8)
  | invalidPadding
  deriving DecidableEq, Repr

def DecodeError.message : DecodeError → String
  | .invalidByte offset byte => s!"Invalid byte {byte.toNat}, offset {offset}."
  | .danglingSymbol => "Encoded text cannot have a 6-bit remainder."
  | .invalidLastSymbol offset byte => s!"Invalid last symbol {byte.toNat}, offset {offset}."
  | .invalidPadding => "Invalid padding"

/-- The byte `=`, which fills up the last group. -/
def pad : UInt8 := 61

/-- The six bits that a byte of the alphabet stands for. -/
def symbolValue (b : UInt8) : Option Nat :=
  let n := b.toNat
  if 65 ≤ n && n ≤ 90 then some (n - 65)
  else if 97 ≤ n && n ≤ 122 then some (n - 71)
  else if 48 ≤ n && n ≤ 57 then some (n + 4)
  else if n == 43 then some 62
  else if n == 47 then some 63
  else none

/-- The byte of the alphabet for six bits. -/
def symbolOf (v : Nat) : UInt8 :=
  if v < 26 then UInt8.ofNat (v + 65)
  else if v < 52 then UInt8.ofNat (v + 71)
  else if v < 62 then UInt8.ofNat (v - 4)
  else if v == 62 then 43
  else 47

def isSymbol (b : UInt8) : Bool :=
  (symbolValue b).isSome

/-- The whole bytes held by a run of six-bit values; bits left over are dropped. -/
def bytesOf : List Nat → List UInt8
  | a :: b :: c :: d :: rest =>
    UInt8.ofNat (a * 4 + b / 16) :: UInt8.ofNat (b % 16 * 16 + c / 4)
      :: UInt8.ofNat (c % 4 * 64 + d) :: bytesOf rest
  | [a, b, c] => [UInt8.ofNat (a * 4 + b / 16), UInt8.ofNat (b % 16 * 16 + c / 4)]
  | [a, b] => [UInt8.ofNat (a * 4 + b / 16)]
  | _ => []

/-- The bits of the last symbol that no byte uses, when `count` symbols were read. -/
def spareBits (count last : Nat) : Nat :=
  if count % 4 == 2 then last % 16 else if count % 4 == 3 then last % 4 else 0

/-- A text whose length leaves one symbol alone is refused for its length, unless its last byte is
neither a symbol nor padding. Otherwise the first byte that cannot stand where it does is reported,
then missing padding, then spare bits. -/
def decode (text : List UInt8) : Except DecodeError (List UInt8) :=
  let symbols := text.takeWhile isSymbol
  let rest := text.dropWhile isSymbol
  let count := symbols.length
  if text.length % 4 == 1 then
    match text.getLast? with
    | some b =>
      if b != pad && !isSymbol b then .error (.invalidByte (text.length - 1) b)
      else .error .danglingSymbol
    | none => .error .danglingSymbol
  else match rest with
    | b :: _ =>
      if b != pad || count % 4 < 2 || !rest.all (· == pad) || 4 < count % 4 + rest.length then
        .error (.invalidByte count b)
      else if count % 4 + rest.length != 4 then .error .invalidPadding
      else finish symbols count
    | [] => if count % 4 != 0 then .error .invalidPadding else finish symbols count
where
  finish (symbols : List UInt8) (count : Nat) : Except DecodeError (List UInt8) :=
    let values := symbols.filterMap symbolValue
    match symbols.getLast?, values.getLast? with
    | some b, some last =>
      if spareBits count last != 0 then .error (.invalidLastSymbol (count - 1) b)
      else .ok (bytesOf values)
    | _, _ => .ok (bytesOf values)

def encode : List UInt8 → List UInt8
  | a :: b :: c :: rest =>
    symbolOf (a.toNat / 4) :: symbolOf (a.toNat % 4 * 16 + b.toNat / 16)
      :: symbolOf (b.toNat % 16 * 4 + c.toNat / 64) :: symbolOf (c.toNat % 64) :: encode rest
  | [a, b] =>
    [symbolOf (a.toNat / 4), symbolOf (a.toNat % 4 * 16 + b.toNat / 16),
      symbolOf (b.toNat % 16 * 4), pad]
  | [a] => [symbolOf (a.toNat / 4), symbolOf (a.toNat % 4 * 16), pad, pad]
  | [] => []

theorem symbolValue_symbolOf {v : Nat} (h : v < 64) : symbolValue (symbolOf v) = some v := by
  have all : ∀ u ∈ List.range 64, symbolValue (symbolOf u) = some u := by decide
  exact all v (List.mem_range.mpr h)

end Lineage.Text.Base64
