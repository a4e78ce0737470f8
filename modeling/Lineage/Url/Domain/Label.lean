import Lineage.Text.Split
import Lineage.Url.Domain.Direction
import Lineage.Url.Domain.Mapping
import Lineage.Url.Domain.Normal
import Lineage.Url.Domain.Punycode

/-! Which labels a domain name may have, and the ASCII form of a whole name. -/

namespace Lineage.Domain

/-- A joiner stands behind a virama; one that parts letters may also stand where they would join. -/
def joinersFit (label : List Char) : Bool :=
  (List.range label.length).all fun i =>
    match label[i]? with
    | some c =>
      let before := (label.take i).reverse
      let after := label.drop (i + 1)
      let afterVirama := (before.head?.map combiningClass) == some 9
      if c == '\u200d' then afterVirama
      else if c == '\u200c' then
        afterVirama ||
          ((before.dropWhile (mem transparent)).head?.any
              (fun d => mem leftJoining d || mem dualJoining d)
            && (after.dropWhile (mem transparent)).head?.any
              (fun d => mem rightJoining d || mem dualJoining d))
      else true
    | none => true

/-- Not mapped to anything else, in normal form, and no mark in front. -/
def isValid (label : List Char) : Bool :=
  label.all (fun c => mapChar? c == some [c]) && normalized label == label
    && !label.head?.any (mem marks) && joinersFit label

def isLeftToRight (c : Char) : Bool :=
  !(mem rightToLeft c || mem arabicNumbers c || mem europeanNumbers c || mem neutrals c
    || mem nonspacing c)

/-- A name is bidirectional when it holds a letter that runs from right to left or an Arabic number. -/
def isBidirectional (labels : List (List Char)) : Bool :=
  labels.any (·.any fun c => mem rightToLeft c || mem arabicNumbers c)

/-- A label of a bidirectional name begins with a letter, keeps to its direction, and ends in a letter
or number. -/
def directionFits (label : List Char) : Bool :=
  match label with
  | [] => true
  | first :: _ =>
    let last := (label.reverse.dropWhile (mem nonspacing)).head?
    if isLeftToRight first then
      label.all (fun c => isLeftToRight c || mem europeanNumbers c || mem neutrals c || mem nonspacing c)
        && last.any (fun c => isLeftToRight c || mem europeanNumbers c)
    else if mem rightToLeft first then
      label.all (fun c => mem rightToLeft c || mem arabicNumbers c || mem europeanNumbers c
          || mem neutrals c || mem nonspacing c)
        && last.any (fun c => mem rightToLeft c || mem arabicNumbers c || mem europeanNumbers c)
        && !(label.any (mem arabicNumbers) && label.any (mem europeanNumbers))
    else false

def isAscii (cs : List Char) : Bool := cs.all (·.toNat < 128)

/-- What marks a label in Punycode. -/
def mark : List Char := ['x', 'n', '-', '-']

def isMarked (label : List Char) : Bool := mark.isPrefixOf label

/-- ASCII characters that no host may hold. -/
def isForbidden (c : Char) : Bool :=
  c.toNat ≤ 0x20 || c == '#' || c == '%' || c == '/' || c == ':' || c == '<' || c == '>' || c == '?'
    || c == '@' || c == '[' || c == '\\' || c == ']' || c == '^' || c == '|' || c == '\x7f'

/-- How many characters a label that is not ASCII may have. -/
def labelLimit : Nat := 1000

/-- How much Punycode is read. -/
def payloadLimit : Nat := 2000

/-- Marked, but with more Punycode than is read. Such a label may still be written, for one of at most
`labelLimit` characters. -/
def isUnreadable (label : List Char) : Bool :=
  isMarked label && payloadLimit < (label.drop mark.length).length

/-- A label that is not ASCII keeps within the limit and is valid. -/
def wideLabel? (label : List Char) : Option (List Char) :=
  if label.length ≤ labelLimit && isValid label then some label else none

/-- The characters that a label stands for. Punycode must stand for a valid label that is not ASCII. -/
def unicodeLabel? (label : List Char) : Option (List Char) :=
  if isUnreadable label then none
  else if isMarked label then
    (Punycode.decode? (label.drop mark.length)).bind fun decoded =>
      if isAscii decoded then none else wideLabel? decoded
  else if isAscii label then some label
  else wideLabel? label

def asciiLabel (label : List Char) : List Char :=
  if isAscii label then label else mark ++ Punycode.encode label

/-- All labels mapped, put in normal form, checked, and written in ASCII. -/
def mappedAscii? (cs : List Char) : Option (List Char) := do
  let chars ← cs.mapM mapChar?
  let labels ← (Text.splitOn '.' (normalized chars.flatten)).mapM unicodeLabel?
  if labels.any (·.any isForbidden) || (isBidirectional labels && !labels.all directionFits) then none
  else some (['.'].intercalate (labels.map asciiLabel))

/-- A name in ASCII without Punycode is only put in lower case. -/
def toAscii? (cs : List Char) : Option (List Char) :=
  let lower := cs.map Char.toLower
  if isAscii cs && !(Text.splitOn '.' lower).any isMarked then
    if lower.any isForbidden then none else some lower
  else mappedAscii? cs

end Lineage.Domain

namespace Lineage

/-- A domain name in its ASCII form. -/
structure DomainName where
  chars : List Char
  named : ∃ cs, Domain.toAscii? cs = some chars

namespace DomainName

def ofChars? (cs : List Char) : Option DomainName :=
  match h : Domain.toAscii? cs with
  | some chars => some ⟨chars, cs, h⟩
  | none => none

theorem ext_chars {a b : DomainName} (h : a.chars = b.chars) : a = b := by
  cases a; cases b; cases h; rfl

instance : DecidableEq DomainName := fun a b =>
  if h : a.chars = b.chars then isTrue (ext_chars h) else isFalse fun e => h (e ▸ rfl)

end DomainName

end Lineage
