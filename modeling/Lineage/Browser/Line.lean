import Lineage.Text.Blank

/-! What a line typed into the browser asks for. -/

namespace Lineage.Browser

inductive Line
  | server (url : String)
  | refs
  | select (target : String)
  | log
  | status
  | help
  | quit
  | empty
  | unknown (text : String)
  deriving DecidableEq, Repr

namespace Line

/-- A word, and what follows it with its ends trimmed. Only `server` and `select` take an argument, and
need one; what follows `help` and `quit` does not matter. -/
def parse (text : String) : Line :=
  let line := Text.trimmed text.toList
  let (word, rest) := Text.cutAtBlank line
  let argument := String.ofList rest
  match String.ofList word with
  | "" => .empty
  | "server" => if rest.isEmpty then .unknown (String.ofList line) else .server argument
  | "refs" => if rest.isEmpty then .refs else .unknown (String.ofList line)
  | "select" => if rest.isEmpty then .unknown (String.ofList line) else .select argument
  | "log" => if rest.isEmpty then .log else .unknown (String.ofList line)
  | "status" => if rest.isEmpty then .status else .unknown (String.ofList line)
  | "help" | "?" => .help
  | "quit" | "exit" => .quit
  | _ => .unknown (String.ofList line)

end Line

end Lineage.Browser
