import Lineage.Command.Config
import Lineage.Command.Log

/-! What a command line asks for, and the faults it may have. -/

namespace Lineage.CommandLine

inductive Chosen
  | refs
  | log (options : Command.LogOptions)
  | show (hash : String)
  | browse
  | config (action : Option Command.ConfigAction)
  deriving DecidableEq, Repr

structure Invocation where
  server : Option String
  verbose : Bool
  configDir : Option String
  command : Option Chosen
  deriving DecidableEq, Repr

/-- Why arguments name no invocation. -/
inductive Fault
  | help
  | version
  | unknownArgument
  | unknownCommand
  | valueMissing
  | valueUnexpected
  | valueMalformed
  | argumentMissing
  | conflict
  deriving DecidableEq, Repr

/-- Asking for help or the version is no mistake. -/
def Fault.exitCode : Fault → Nat
  | .help | .version => 0
  | _ => 2

end Lineage.CommandLine
