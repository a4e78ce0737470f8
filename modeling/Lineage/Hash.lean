/-! Abbreviated hashes. A hash is written `algorithm:digest`; only the start of the digest is shown. -/

namespace Lineage.Hash

/-- How many bytes of a digest an abbreviation shows. -/
def shownBytes : Nat := 8

/-- The text after the first colon, or the whole text when it has none. -/
def digest (cs : List Char) : List Char :=
  match cs.dropWhile (· != ':') with
  | [] => cs
  | _ :: rest => rest

/-- The characters that fill exactly `n` bytes of UTF-8 at the start, if the text has so many and
no character straddles the end. -/
def takeBytes? : Nat → List Char → Option (List Char)
  | 0, _ => some []
  | _ + 1, [] => none
  | n + 1, c :: cs =>
    if c.utf8Size ≤ n + 1 then (takeBytes? (n + 1 - c.utf8Size) cs).map (c :: ·) else none

/-- The first eight bytes of the digest. A digest that is shorter, or whose eighth byte lies inside
a character, is shown in full. -/
def abbreviated (cs : List Char) : List Char :=
  (takeBytes? shownBytes (digest cs)).getD (digest cs)

def abbreviate (hash : String) : String :=
  String.ofList (abbreviated hash.toList)

end Lineage.Hash
