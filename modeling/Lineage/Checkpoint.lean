import Lineage.Dict
import Lineage.Hash
import Lineage.Text.Base64
import Lineage.Text.Blank
import Lineage.Text.Utf8
import Lineage.Time.Rfc3339

/-! Checkpoints: immutable records of one command execution each, named by their hash and linked to
their parents. -/

namespace Lineage

structure Checkpoint where
  hash : String
  parentHashes : List String
  affixHash : String
  /-- The command description in base64. -/
  commandDesc : String
  summary : String
  fields : Dict String
  deriving DecidableEq, Repr

namespace Checkpoint

/-- A checkpoint that says nothing but its hash. -/
def bare (hash : String) : Checkpoint :=
  ⟨hash, [], "", "", "", .empty⟩

/-- The only parent that a history follows. -/
def firstParent (c : Checkpoint) : Option String :=
  c.parentHashes.head?

/-- Text from base64 that may stand between blanks; nothing but blanks is the empty text. -/
def decodeDescription (encoded : String) : Except Text.Base64.DecodeError String :=
  let text := Text.trimmed encoded.toList
  if text.isEmpty then .ok ""
  else (Text.Base64.decode (Text.Utf8.encode text)).map fun bytes =>
    String.ofList (Text.Utf8.decodeLossy bytes)

def description (c : Checkpoint) : Except Text.Base64.DecodeError String :=
  decodeDescription c.commandDesc

/-- What is said of a description that does not decode. -/
def descriptionFault (e : Text.Base64.DecodeError) : String :=
  "command description is not valid base64: " ++ e.message

def shortHash (c : Checkpoint) : String :=
  Hash.abbreviate c.hash

/-- Upper and lower case of the ASCII letters are one. -/
def sameName (a b : String) : Bool :=
  a.toList.map Char.toLower == b.toList.map Char.toLower

/-- The value of the first field, in the order of names, that is so named in any case. -/
def field? (c : Checkpoint) (name : String) : Option String :=
  c.fields.find? (sameName · name)

def date? (c : Checkpoint) : Option Instant :=
  (c.field? "date").bind Rfc3339.parse?

def session? (c : Checkpoint) : Option String :=
  (c.field? "session").filter (!·.isEmpty)

/-- The most characters that a description takes up on a line. -/
def maxShown : Nat := 96

/-- Cut off where it is too long, with an ellipsis as its last character. -/
def shortened (cs : List Char) : List Char :=
  if cs.length ≤ maxShown then cs else cs.take (maxShown - 1) ++ ['…']

/-- The description on one line. -/
def oneLine (c : Checkpoint) : String :=
  match c.description with
  | .ok text => String.ofList (shortened (Text.collapsed text.toList))
  | .error _ => "<undecodable command description>"

end Checkpoint

end Lineage
