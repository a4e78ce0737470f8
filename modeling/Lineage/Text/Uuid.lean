/-! Random identifiers: UUIDs of version 4. -/

namespace Lineage.Text

def hexByte (b : UInt8) : List Char :=
  let digit (n : Nat) : Char :=
    if n < 10 then Char.ofNat ('0'.toNat + n) else Char.ofNat ('a'.toNat + n - 10)
  [digit (b.toNat / 16), digit (b.toNat % 16)]

/-- Sixteen random bytes, six bits of which give way to version and variant. -/
def uuid (random : List UInt8) : String :=
  let bytes := (random.zipIdx).map fun (b, i) =>
    if i == 6 then b % 16 + 0x40 else if i == 8 then b % 64 + 0x80 else b
  let part (start count : Nat) : List Char := ((bytes.drop start).take count).flatMap hexByte
  String.ofList (['-'].intercalate [part 0 4, part 4 2, part 6 2, part 8 2, part 10 6])

end Lineage.Text
