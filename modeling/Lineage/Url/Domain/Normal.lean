import Lineage.Url.Domain.Composition

/-! Normalization Form C: characters taken apart, their marks put in order, and put together again.
Korean syllables are composed by arithmetic, all else by table. -/

namespace Lineage.Domain

def syllableBase : Nat := 0xAC00
def leadBase : Nat := 0x1100
def vowelBase : Nat := 0x1161
def tailBase : Nat := 0x11A7
def vowelCount : Nat := 21
def tailCount : Nat := 28
def syllableCount : Nat := 19 * vowelCount * tailCount

/-- Full decomposition. Decompositions nest at most `fuel` deep. -/
def decompose : (fuel : Nat) → Char → List Char
  | 0, c => [c]
  | fuel + 1, c =>
    let n := c.toNat
    if syllableBase ≤ n && n < syllableBase + syllableCount then
      let s := n - syllableBase
      let front := [Char.ofNat (leadBase + s / (vowelCount * tailCount)),
        Char.ofNat (vowelBase + s % (vowelCount * tailCount) / tailCount)]
      if s % tailCount == 0 then front else front ++ [Char.ofNat (tailBase + s % tailCount)]
    else match find? decompositions c with
      | some row => row.values.flatMap fun v => decompose fuel (Char.ofNat v)
      | none => [c]

/-- Behind the characters whose class is not greater, back to the last of class zero. -/
def insertByClass (c : Char × Nat) : List (Char × Nat) → List (Char × Nat)
  | [] => [c]
  | d :: rest =>
    if c.2 != 0 && c.2 < d.2 then d :: insertByClass c rest else c :: d :: rest

/-- Marks sorted by class, those of one class left in order. -/
def ordered (cs : List Char) : List (Char × Nat) :=
  (cs.foldl (fun done c => insertByClass (c, combiningClass c) done) []).reverse

def composePair? (a b : Char) : Option Char :=
  let x := a.toNat
  let y := b.toNat
  if leadBase ≤ x && x < leadBase + 19 && vowelBase ≤ y && y < vowelBase + vowelCount then
    some (Char.ofNat (syllableBase + ((x - leadBase) * vowelCount + (y - vowelBase)) * tailCount))
  else if syllableBase ≤ x && x < syllableBase + syllableCount && (x - syllableBase) % tailCount == 0
      && tailBase < y && y < tailBase + tailCount then
    some (Char.ofNat (x + (y - tailBase)))
  else (decompositions.find? fun row => row.values == [x, y]).map fun row => Char.ofNat row.first

/-- Where composition stands: the last character of class zero, and what stands before and after it. -/
structure Composer where
  /-- In reverse. -/
  done : List Char
  starter : Option Char
  /-- In reverse, with classes. -/
  behind : List (Char × Nat)

/-- All characters so far, in reverse. -/
def Composer.read (s : Composer) : List Char :=
  s.behind.map Prod.fst ++ s.starter.toList ++ s.done

/-- A mark reaches the starter unless one of its class or higher stands between. -/
def Composer.step (s : Composer) (c : Char × Nat) : Composer :=
  let blocked := match s.behind with
    | [] => false
    | (_, lastClass) :: _ => c.2 ≤ lastClass
  match s.starter.bind fun starter => if blocked then none else composePair? starter c.1 with
  | some joined => { s with starter := some joined }
  | none =>
    if c.2 == 0 then ⟨s.read, some c.1, []⟩ else { s with behind := c :: s.behind }

def normalized (cs : List Char) : List Char :=
  ((ordered (cs.flatMap (decompose 4))).foldl Composer.step ⟨[], none, []⟩).read.reverse

end Lineage.Domain
