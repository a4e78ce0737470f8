/-! UTF-8 read leniently: each maximal ill-formed part becomes one U+FFFD. -/

namespace Lineage.Text.Utf8

/-- What stands open between two bytes. -/
inductive Pending
  | none
  /-- `owed` more bytes belong to the character begun as `value`, the next from `low` to `high`. -/
  | tail (owed low high value : Nat)
  deriving DecidableEq, Repr

/-- Stands for a part that is no character. -/
def replacement : Char := '\uFFFD'

/-- A byte met between characters: the characters it ends, and what it opens. -/
def lead (b : Nat) : List Char × Pending :=
  if b < 0x80 then ([Char.ofNat b], .none)
  else if 0xC2 ≤ b && b ≤ 0xDF then ([], .tail 1 0x80 0xBF (b - 0xC0))
  else if b == 0xE0 then ([], .tail 2 0xA0 0xBF 0)
  else if b == 0xED then ([], .tail 2 0x80 0x9F (b - 0xE0))
  else if 0xE1 ≤ b && b ≤ 0xEF then ([], .tail 2 0x80 0xBF (b - 0xE0))
  else if b == 0xF0 then ([], .tail 3 0x90 0xBF 0)
  else if 0xF1 ≤ b && b ≤ 0xF3 then ([], .tail 3 0x80 0xBF (b - 0xF0))
  else if b == 0xF4 then ([], .tail 3 0x80 0x8F 4)
  else ([replacement], .none)

/-- One byte. A byte that cannot continue the open character ends it and starts afresh. -/
def step (pending : Pending) (b : Nat) : List Char × Pending :=
  match pending with
  | .none => lead b
  | .tail owed low high value =>
    if low ≤ b && b ≤ high then
      let value := value * 64 + (b - 0x80)
      if owed ≤ 1 then ([Char.ofNat value], .none) else ([], .tail (owed - 1) 0x80 0xBF value)
    else
      let (ended, opened) := lead b
      (replacement :: ended, opened)

def decodeFrom : Pending → List UInt8 → List Char
  | .none, [] => []
  | .tail .., [] => [replacement]
  | pending, b :: bs =>
    let (ended, opened) := step pending b.toNat
    ended ++ decodeFrom opened bs

def decodeLossy (bytes : List UInt8) : List Char :=
  decodeFrom .none bytes

def encode (cs : List Char) : List UInt8 :=
  cs.flatMap String.utf8EncodeChar

end Lineage.Text.Utf8
