import Lineage.Dict
import Lineage.Json.Document

/-! JSON values. Those read from a text have sorted members of distinct names; those to be written may
have their members in any order. -/

namespace Lineage

inductive Json
  | null
  | bool (value : Bool)
  | number (value : Json.Number)
  | text (content : String)
  | array (items : List Json)
  | object (members : List (String × Json))
  deriving Repr

namespace Json

/-- Arrays and objects nested deeper than this are not read. -/
def maxDepth : Nat := 127

mutual

/-- Of members with one name the last counts. -/
def ofTree? : Document → Option Json
  | .null => some .null
  | .bool b => some (.bool b)
  | .number n => n.value?.map .number
  | .text s => s.map .text
  | .array items => (ofItems? items).map .array
  | .object members => (ofMembers? members).map fun ms => .object (Dict.ofList ms).toList

def ofItems? : List Document → Option (List Json)
  | [] => some []
  | d :: rest => (ofTree? d).bind fun v => (ofItems? rest).map (v :: ·)

def ofMembers? : List (Option String × Document) → Option (List (String × Json))
  | [] => some []
  | (name, d) :: rest =>
    name.bind fun name => (ofTree? d).bind fun v => (ofMembers? rest).map ((name, v) :: ·)

end

def ofDocument? (d : Document) : Option Json :=
  if maxDepth < d.depth then none else ofTree? d

/-- The member of an object. -/
def member? (name : String) : Json → Option Json
  | .object members => (members.find? (·.1 == name)).map Prod.snd
  | _ => none

def text? : Json → Option String
  | .text s => some s
  | _ => none

def ofNat (n : Nat) : Json := .number (.integer n)

def texts (l : List String) : Json := .array (l.map .text)

def ofDict (d : Dict String) : Json := .object (d.toList.map fun (k, v) => (k, .text v))

end Json

end Lineage
