/-! The words and flags of the command line, and where each of them may stand. -/

namespace Lineage.CommandLine

/-- Where an argument stands. -/
inductive Level
  | root
  | refs
  | log
  | show
  | browse
  | config
  | configShow
  | setServer
  | setDefaultRef
  | clearDefaultRef
  deriving DecidableEq, Repr

/-- The level that a word leads to. -/
def Level.sub? : Level → String → Option Level
  | .root, "refs" => some .refs
  | .root, "log" => some .log
  | .root, "show" => some .show
  | .root, "browse" => some .browse
  | .root, "config" => some .config
  | .config, "show" => some .configShow
  | .config, "set-server" => some .setServer
  | .config, "set-default-ref" => some .setDefaultRef
  | .config, "clear-default-ref" => some .clearDefaultRef
  | _, _ => none

/-- It is followed by words that lead further. -/
def Level.hasSubs : Level → Bool
  | .root | .config => true
  | _ => false

/-- It takes one argument of its own, and whether that must be given. -/
def Level.operand? : Level → Option Bool
  | .log => some false
  | .show | .setServer | .setDefaultRef => some true
  | _ => none

inductive Flag
  | server
  | verbose
  | configDir
  | maxDepth
  | affix
  | json
  | help
  | version
  deriving DecidableEq, Repr

def Flag.takesValue : Flag → Bool
  | .server | .configDir | .maxDepth => true
  | _ => false

/-- Flags that may stand at any level. -/
def Flag.isGlobal : Flag → Bool
  | .server | .verbose | .configDir | .help => true
  | _ => false

def Flag.allowedAt (level : Level) (f : Flag) : Bool :=
  f.isGlobal || (f == .version && level == .root)
    || (level == .log && (f == .maxDepth || f == .affix || f == .json))

def long? : String → Option Flag
  | "server" => some .server
  | "verbose" => some .verbose
  | "config-dir" => some .configDir
  | "max-depth" => some .maxDepth
  | "affix" => some .affix
  | "json" => some .json
  | "help" => some .help
  | "version" => some .version
  | _ => none

def short? : Char → Option Flag
  | 's' => some .server
  | 'v' => some .verbose
  | 'h' => some .help
  | 'V' => some .version
  | _ => none

end Lineage.CommandLine
