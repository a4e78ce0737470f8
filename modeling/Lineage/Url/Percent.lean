/-! Percent-encoding: bytes written as `%` and two hexadecimal digits. -/

namespace Lineage.Percent

def hexDigit (n : Nat) : Char :=
  if n < 10 then Char.ofNat ('0'.toNat + n) else Char.ofNat ('A'.toNat + n - 10)

def hexValue? (b : UInt8) : Option Nat :=
  let n := b.toNat
  if 48 ≤ n && n ≤ 57 then some (n - 48)
  else if 65 ≤ n && n ≤ 70 then some (n - 55)
  else if 97 ≤ n && n ≤ 102 then some (n - 87)
  else none

def encodeByte (b : UInt8) : List Char :=
  ['%', hexDigit (b.toNat / 16), hexDigit (b.toNat % 16)]

/-- A character outside ASCII, or one that `reserved` names, as its bytes of UTF-8. -/
def encodeChar (reserved : Char → Bool) (c : Char) : List Char :=
  if c.toNat < 128 && !reserved c then [c] else (String.utf8EncodeChar c).flatMap encodeByte

def encode (reserved : Char → Bool) (cs : List Char) : List Char :=
  cs.flatMap (encodeChar reserved)

/-- A `%` without two hexadecimal digits behind it stands for itself. -/
def decode : List UInt8 → List UInt8
  | [] => []
  | a :: b :: c :: rest =>
    match (if a == 37 then hexValue? b else none), hexValue? c with
    | some high, some low => UInt8.ofNat (high * 16 + low) :: decode rest
    | _, _ => a :: decode (b :: c :: rest)
  | a :: rest => a :: decode rest

def isControl (c : Char) : Bool := c.toNat < 0x20 || c.toNat == 0x7F

/-- Escaped in paths. -/
def inPath (c : Char) : Bool :=
  isControl c || c == ' ' || c == '"' || c == '#' || c == '<' || c == '>' || c == '?'
    || c == '\x60' || c == '\x7b' || c == '\x7d'

/-- Escaped in a path segment that is taken literally. -/
def inSegment (c : Char) : Bool :=
  inPath c || c == '/' || c == '%' || c == '\\'

/-- Escaped in a user name and a password. -/
def inUserinfo (c : Char) : Bool :=
  inPath c || c == '/' || c == ':' || c == ';' || c == '=' || c == '@' || c == '[' || c == '\\'
    || c == ']' || c == '^' || c == '|'

end Lineage.Percent
