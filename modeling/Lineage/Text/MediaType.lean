/-! The type of a body as its sender tells it: a type, a subtype, and parameters behind them. -/

namespace Lineage.Text.MediaType

def isTokenChar (c : Char) : Bool :=
  c.isAlphanum || "!#$%&'*+-.^_\x60|~".toList.contains c

/-- Neither a control character nor DEL. -/
def isQuotedChar (c : Char) : Bool := 0x20 ≤ c.toNat && c != '\x7f'

abbrev Parameter := List Char × List Char

/-- Where the reader stands among the parameters. What is read of a name or a value is kept last first. -/
inductive Place
  | gap
  | name (read : List Char)
  | value (name read : List Char)
  | quoted (name read : List Char)
  /-- Behind a closing quote. -/
  | closed
  deriving DecidableEq, Repr

/-- The parameters that were read, and the one that is being read. -/
structure Reader where
  done : List Parameter
  place : Place
  deriving DecidableEq, Repr

namespace Reader

def start : Reader := ⟨[], .gap⟩

def enter (r : Reader) (place : Place) : Reader := { r with place }

def add (r : Reader) (name read : List Char) : List Parameter := r.done ++ [(name.reverse, read.reverse)]

/-- A quoted value has a character at least, so that a quote which follows the opening one belongs to it. -/
def step (r : Reader) (c : Char) : Option Reader :=
  match r.place with
  | .gap =>
    if c == ' ' then some r
    else if isTokenChar c then some (r.enter (.name [c]))
    else none
  | .name read =>
    if isTokenChar c then some (r.enter (.name (c :: read)))
    else if c == '=' then some (r.enter (.value read []))
    else none
  | .value name read =>
    if c == '"' && read.isEmpty then some (r.enter (.quoted name []))
    else if isTokenChar c then some (r.enter (.value name (c :: read)))
    else if c == ';' && !read.isEmpty then some ⟨r.add name read, .gap⟩
    else none
  | .quoted name read =>
    if c == '"' && !read.isEmpty then some ⟨r.add name read, .closed⟩
    else if isQuotedChar c then some (r.enter (.quoted name (c :: read)))
    else none
  | .closed =>
    if c == ';' then some (r.enter .gap)
    else if c == ' ' then some r
    else none

/-- All parameters, if the text may end here. -/
def finish (r : Reader) : Option (List Parameter) :=
  match r.place with
  | .gap | .closed => some r.done
  | .value name read => some (r.add name read)
  | .name _ | .quoted .. => none

end Reader

/-- The parameters of a media type in their order; nothing of a text that is none. -/
def parameters? (cs : List Char) : Option (List Parameter) :=
  match cs.takeWhile isTokenChar, cs.dropWhile isTokenChar with
  | _ :: _, '/' :: rest =>
    match rest.takeWhile isTokenChar, rest.dropWhile isTokenChar with
    | _, [] => some []
    | _ :: _, ';' :: rest => do
      let reader ← rest.foldlM Reader.step .start
      reader.finish
    | _, _ => none
  | _, _ => none

/-- The value of the first parameter of that name, which is compared without regard to case. -/
def parameter? (name : List Char) (cs : List Char) : Option (List Char) := do
  let parameters ← parameters? cs
  let found ← parameters.find? fun p => p.1.map Char.toLower == name
  some found.2

end Lineage.Text.MediaType
