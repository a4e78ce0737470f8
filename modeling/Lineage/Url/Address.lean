import Lineage.Text.Split

/-! Internet addresses as hosts of a URL. -/

namespace Lineage

open Text (splitOn)

namespace Ipv4

/-- What a part of an address says. -/
inductive Part
  | notNumber
  | tooLarge
  | number (n : Nat)
  deriving DecidableEq, Repr

def digitValue? (radix : Nat) (c : Char) : Option Nat :=
  let n :=
    if c.isDigit then c.toNat - '0'.toNat
    else if c.isLower then c.toNat - 'a'.toNat + 10
    else if c.isUpper then c.toNat - 'A'.toNat + 10
    else radix
  if n < radix then some n else none

def inRadix (radix : Nat) (cs : List Char) : Part :=
  match cs.mapM (digitValue? radix) with
  | none => .notNumber
  | some digits =>
    let n := digits.foldl (fun n d => n * radix + d) 0
    if n < UInt32.size then .number n else .tooLarge

/-- Hexadecimal after `0x`, octal after another leading zero; no digits after these mean zero. -/
def part : List Char → Part
  | [] => .notNumber
  | ['0'] => .number 0
  | '0' :: c :: rest => if c == 'x' || c == 'X' then inRadix 16 rest else inRadix 8 (c :: rest)
  | cs => inRadix 10 cs

/-- The last part, one final dot aside, is digits or reads as a number: then the host has to be an
address. -/
def endsInNumber (host : List Char) : Bool :=
  let parts := (splitOn '.' host).reverse
  let last := match parts with
    | [] :: last :: _ => last
    | last :: _ => last
    | [] => []
  (!last.isEmpty && last.all Char.isDigit) || part last != .notNumber

/-- Up to four parts; the last one fills all the bytes that the others leave. -/
def parse? (host : List Char) : Option Nat := do
  let parts := splitOn '.' host
  let parts := if parts.getLast? == some [] then parts.dropLast else parts
  let numbers ← parts.mapM fun p => match part p with
    | .number n => some n
    | _ => none
  let last ← numbers.getLast?
  let front := numbers.dropLast
  if 3 < front.length || !front.all (· ≤ 255) || Nat.pow 256 (4 - front.length) ≤ last then none
  else
    let high := (front.zipIdx).foldl (fun n (b, i) => n + b * Nat.pow 256 (3 - i)) 0
    some (high + last)

/-- Four decimal bytes. -/
def text (n : Nat) : List Char :=
  let byte (k : Nat) : List Char := Nat.toDigits 10 (n / Nat.pow 256 k % 256)
  byte 3 ++ '.' :: byte 2 ++ '.' :: byte 1 ++ '.' :: byte 0

end Ipv4

namespace Ipv6

/-- One to four hexadecimal digits. -/
def group? (cs : List Char) : Option Nat :=
  if cs.isEmpty || 4 < cs.length then none
  else (cs.mapM (Ipv4.digitValue? 16)).map (·.foldl (fun n d => n * 16 + d) 0)

/-- A decimal byte without leading zeros. -/
def byte? (cs : List Char) : Option Nat :=
  match cs with
  | [] => none
  | '0' :: _ :: _ => none
  | cs =>
    if 3 < cs.length then none
    else ((cs.mapM (Ipv4.digitValue? 10)).map (·.foldl (fun n d => n * 10 + d) 0)).filter (· ≤ 255)

/-- Four decimal bytes are two groups. -/
def dotted? (cs : List Char) : Option (List Nat) :=
  match (splitOn '.' cs).mapM byte? with
  | some [a, b, c, d] => some [a * 256 + b, c * 256 + d]
  | _ => none

/-- Groups parted by colons. Only where the address ends may the last one be dotted. -/
def groups? (atEnd : Bool) : List (List Char) → Option (List Nat)
  | [] => some []
  | [last] => if atEnd && last.contains '.' then dotted? last else (group? last).map ([·])
  | g :: rest => do
    let n ← group? g
    let ns ← groups? atEnd rest
    some (n :: ns)

/-- The text before and after the first double colon. -/
def cutAtGap : List Char → Option (List Char × List Char)
  | ':' :: ':' :: rest => some ([], rest)
  | [] => none
  | c :: rest => (cutAtGap rest).map fun (front, back) => (c :: front, back)

def side? (atEnd : Bool) (cs : List Char) : Option (List Nat) :=
  if cs.isEmpty then some [] else groups? atEnd (splitOn ':' cs)

/-- Eight groups. A double colon stands for at least one group of zero. -/
def parse? (cs : List Char) : Option (List Nat) := do
  match cutAtGap cs with
  | none =>
    let groups ← side? true cs
    if groups.length == 8 then some groups else none
  | some (front, back) =>
    let front ← side? false front
    let back ← side? true back
    if front.length + back.length < 8 then
      some (front ++ List.replicate (8 - front.length - back.length) 0 ++ back)
    else none

/-- How many zeros the groups begin with. -/
def zerosAtStart (groups : List Nat) : Nat := (groups.takeWhile (· == 0)).length

/-- Where the first of the longest runs of zeros begins, and its length. -/
def longestGap (groups : List Nat) : Nat × Nat :=
  (List.range groups.length).foldl
    (fun best i =>
      let n := zerosAtStart (groups.drop i)
      if best.2 < n then (i, n) else best)
    (0, 0)

def groupsText (groups : List Nat) : List Char :=
  [':'].intercalate (groups.map (Nat.toDigits 16))

/-- The longest run of at least two zeros is left out. -/
def text (groups : List Nat) : List Char :=
  let (place, n) := longestGap groups
  if n < 2 then groupsText groups
  else groupsText (groups.take place) ++ [':', ':'] ++ groupsText (groups.drop (place + n))

end Ipv6

end Lineage
