import Lineage.CommandLine.Flag
import Lineage.CommandLine.Invocation

/-! A command line read from left to right. Words lead down from level to level; flags stand anywhere,
some at one level only. Of two faults the one further down comes first, and at one level an argument that
is not understood comes before a flag whose value may still follow. -/

namespace Lineage.CommandLine

/-- What was read so far. -/
structure Reading where
  level : Level
  server : Option String
  verbose : Bool
  configDir : Option String
  maxDepth : Option UInt64
  affix : Bool
  json : Bool
  operand : Option String
  /-- Flags given at this level. -/
  given : List Flag
  /-- A flag that takes a value, and the value if it was read. It is not yet given: faults of arguments
  that are not understood come before its own. -/
  pending : Option (Flag × Option String)
  /-- The fault of a level above, which is one only if there is none further down. -/
  deferred : Option Fault
  deriving DecidableEq, Repr

def Reading.start : Reading :=
  { level := .root, server := none, verbose := false, configDir := none, maxDepth := none
    affix := false, json := false, operand := none, given := [], pending := none, deferred := none }

/-- The pending flag still lacks its value. -/
def Reading.awaitsValue (r : Reading) : Bool := r.pending.any (·.2.isNone)

/-- A flag without a value, or a value of a flag. No flag is given twice at one level. -/
def Reading.set (r : Reading) (f : Flag) (value : String) : Except Fault Reading :=
  if r.given.contains f then .error .conflict
  else
    let r := { r with given := f :: r.given }
    match f with
    | .server => .ok { r with server := some value }
    | .configDir => .ok { r with configDir := some value }
    | .verbose => .ok { r with verbose := true }
    | .affix => .ok { r with affix := true }
    | .json => .ok { r with json := true }
    | .maxDepth =>
      match Settings.parseWord? value.toList with
      | some n => .ok { r with maxDepth := some n }
      | none => .error .valueMalformed
    | .help => .error .help
    | .version => .error .version

/-- With the flag given that was pending. -/
def Reading.settle (r : Reading) : Except Fault Reading :=
  match r.pending with
  | none => .ok r
  | some (_, none) => .error .valueMissing
  | some (f, some value) => { r with pending := none }.set f value

/-- A flag with all that belongs to it. -/
def Reading.give (r : Reading) (f : Flag) (value : String) : Except Fault Reading :=
  r.settle.bind (·.set f value)

/-- A flag whose value is to follow. -/
def Reading.await (r : Reading) (f : Flag) : Except Fault Reading :=
  r.settle.map ({ · with pending := some (f, none) })

/-- One level further down, where flags may be given again. -/
def Reading.enter (r : Reading) (level : Level) : Reading :=
  match r.settle with
  | .ok r => { r with level, given := [] }
  | .error fault => { r with level, given := [], pending := none, deferred := some fault }

/-- A word that is neither a flag nor a value, nor leads further. Behind two dashes no word leads
further. -/
def Reading.takeOperand (r : Reading) (behindDashes : Bool) (word : String) : Except Fault Reading :=
  if r.level.hasSubs then
    let leads := (r.level.sub? word).isSome || word == "help"
    .error (if behindDashes && leads then .unknownArgument else .unknownCommand)
  else if r.level.operand?.isSome && r.operand.isNone then
    r.settle.map ({ · with operand := some word })
  else .error .unknownArgument

/-- An argument that is no flag. -/
def Reading.word (r : Reading) (word : String) : Except Fault Reading :=
  match r.pending, r.level.sub? word with
  | some (f, none), _ => .ok { r with pending := some (f, some word) }
  | _, some level => .ok (r.enter level)
  | _, none => r.takeOperand false word

/-- Letters behind one dash. A flag that takes a value takes the letters that follow. -/
def Reading.cluster (r : Reading) : List Char → Except Fault Reading
  | [] => .ok r
  | c :: rest =>
    match (short? c).filter (Flag.allowedAt r.level) with
    | none => .error .unknownArgument
    | some f =>
      if f.takesValue then
        match rest with
        | [] => r.await f
        | '=' :: value => r.give f (String.ofList value)
        | value => r.give f (String.ofList value)
      else (r.give f "").bind (cluster · rest)

/-- A name behind two dashes, with a value behind an equals sign or without. -/
def Reading.long (r : Reading) (cs : List Char) : Except Fault Reading :=
  let name := cs.takeWhile (· != '=')
  let value := if name.length == cs.length then none else some (String.ofList (cs.drop (name.length + 1)))
  match (long? (String.ofList name)).filter (Flag.allowedAt r.level) with
  | none => .error .unknownArgument
  | some f =>
    match f.takesValue, value with
    | true, some value => r.give f value
    | true, none => r.await f
    | false, some _ => .error .valueUnexpected
    | false, none => r.give f ""

/-- What the word `help` asks about has to be there. -/
def helpFault (level : Level) : List String → Fault
  | [] => .help
  | word :: rest =>
    match level.sub? word with
    | some level => helpFault level rest
    | none => if word == "help" && level.hasSubs && rest.isEmpty then .help else .unknownCommand

/-- All arguments. Two dashes alone make operands of those that follow. -/
def Reading.read (r : Reading) : List String → Except Fault Reading
  | [] => .ok r
  | word :: rest =>
    match word.toList with
    | ['-', '-'] => rest.foldlM (Reading.takeOperand · true) r
    | '-' :: '-' :: cs => (r.long cs).bind (read · rest)
    | '-' :: c :: cs => (r.cluster (c :: cs)).bind (read · rest)
    | _ =>
      if word == "help" && r.level.hasSubs && !r.awaitsValue then .error (helpFault r.level rest)
      else (r.word word).bind (read · rest)

/-- The command that was reached. -/
def Reading.chosen (r : Reading) : Option Chosen :=
  let operand := r.operand.getD ""
  match r.level with
  | .root => none
  | .refs => some .refs
  | .log => some (.log ⟨r.operand, r.maxDepth, r.affix, r.json⟩)
  | .show => some (.show operand)
  | .browse => some .browse
  | .config => some (.config none)
  | .configShow => some (.config (some .show))
  | .setServer => some (.config (some (.setServer operand)))
  | .setDefaultRef => some (.config (some (.setDefaultRef operand)))
  | .clearDefaultRef => some (.config (some .clearDefaultRef))

/-- Listing affixes does not go with JSON, and operands that must be given are. -/
def Reading.finish (r : Reading) : Except Fault Invocation :=
  r.settle.bind fun r =>
    if r.affix && r.json then .error .conflict
    else if r.level.operand? == some true && r.operand.isNone then .error .argumentMissing
    else match r.deferred with
      | some fault => .error fault
      | none => .ok ⟨r.server, r.verbose, r.configDir, r.chosen⟩

end Lineage.CommandLine
