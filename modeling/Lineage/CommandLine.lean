import Lineage.CommandLine.Reading

/-! The command line: options that may stand anywhere, and one command with its own. -/

namespace Lineage.CommandLine

/-- Said when no command is given. -/
def noCommandText : String :=
  "No command specified. Use --help for usage information.
Use 'retro-cabinet browse' to browse a server interactively.
"

/-- Said when asked for help, and after a mistake. -/
def usageText : String :=
  "Retro Cabinet - checkpoint and ref browser for Retro object-database servers

Usage: retro-cabinet [OPTIONS] [COMMAND]

Commands:
  refs    List the refs of the server
  log     Print the first-parent history of a ref or checkpoint
  show    Print a raw object by hash
  browse  Interactive browser
  config  Show or change stored settings
  help    Print this message or the help of the given subcommand(s)

Options:
  -s, --server <SERVER>          Server to browse
  -v, --verbose                  Enable verbose logging
      --config-dir <CONFIG_DIR>  Directory holding settings.json
  -h, --help                     Print help
  -V, --version                  Print version
"

/-- Said when asked for the version. -/
def versionText : String := "retro-cabinet 0.1.0\n"

def parse (args : List String) : Except Fault Invocation :=
  (Reading.start.read args).bind Reading.finish

end Lineage.CommandLine
