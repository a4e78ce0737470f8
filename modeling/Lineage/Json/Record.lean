import Lineage.Json.Document

/-! Records in JSON: objects whose members are known by name, or arrays of their values in order. -/

namespace Lineage.Json

/-- The values of the members of one name. -/
def valuesOf (name : String) (members : List (Option String × Document)) : List Document :=
  (members.filter (·.1 == some name)).map Prod.snd

/-- At most one value. -/
def valueOf? (members : List (Option String × Document)) (name : String) : Option (Option Document) :=
  match valuesOf name members with
  | [] => some none
  | [d] => some (some d)
  | _ => none

/-- What a document says of each name. Members of other names are passed over; a repeated name, a name
that is no text, and more items than names are refused. -/
def record? (names : List String) : Document → Option (List (Option Document))
  | .object members =>
    if members.all (·.1.isSome) then names.mapM (valueOf? members) else none
  | .array items =>
    if items.length ≤ names.length then
      some (items.map some ++ List.replicate (names.length - items.length) none)
    else none
  | _ => none

namespace Document

/-- An absent value and null mean `fallback`. -/
def orNull {α : Type} (fallback : α) (read : Document → Option α) : Option Document → Option α
  | none | some .null => some fallback
  | some d => read d

def text? : Document → Option String
  | .text s => s
  | _ => none

def texts? : Document → Option (List String)
  | .array items => items.mapM text?
  | _ => none

/-- Members with names that are texts. -/
def members? : Document → Option (List (String × Document))
  | .object members => members.mapM fun (name, d) => name.map fun name => (name, d)
  | _ => none

def word? : Document → Option UInt64
  | .number n => n.word?
  | _ => none

end Document

end Lineage.Json
