import Lineage.Text.Blank
import Lineage.Url.Host

/-! URLs of servers: `http` and `https` only. A URL is read into its parts in one normal form, and
written from them. -/

namespace Lineage

inductive Scheme
  | http
  | https
  deriving DecidableEq, Repr

def Scheme.text : Scheme → List Char
  | .http => ['h', 't', 't', 'p']
  | .https => ['h', 't', 't', 'p', 's']

def Scheme.defaultPort : Scheme → Nat
  | .http => 80
  | .https => 443

/-- User name, password and path are percent-encoded. The segments of the path are those after its
first slash, so that the path `/` has one, which is empty. -/
structure Url where
  scheme : Scheme
  username : List Char
  password : Option (List Char)
  host : Host
  /-- Absent if it is the scheme's own. -/
  port : Option Nat
  path : List (List Char)
  deriving DecidableEq

namespace Url

def userinfoText (u : Url) : List Char :=
  let password := match u.password with
    | some password => ':' :: password
    | none => []
  let userinfo := u.username ++ password
  if userinfo.isEmpty then [] else userinfo ++ ['@']

def portText (u : Url) : List Char :=
  match u.port with
  | some port => ':' :: Nat.toDigits 10 port
  | none => []

def pathText (path : List (List Char)) : List Char :=
  path.flatMap ('/' :: ·)

/-- Scheme, host and port. -/
def originText (u : Url) : List Char :=
  u.scheme.text ++ [':', '/', '/'] ++ u.host.text ++ u.portText

def chars (u : Url) : List Char :=
  u.scheme.text ++ [':', '/', '/'] ++ u.userinfoText ++ u.host.text ++ u.portText ++ pathText u.path

def text (u : Url) : String := String.ofList u.chars

/-- Without user name and password. -/
def publicText (u : Url) : String := String.ofList (u.originText ++ pathText u.path)

/-- A letter and a colon or bar: never removed by a segment that goes up. -/
def isDriveLetter : List Char → Bool
  | [letter, mark] => letter.isAlpha && (mark == ':' || mark == '|')
  | _ => false

/-- Up one segment. -/
def parent (done : List (List Char)) : List (List Char) :=
  match done.getLast? with
  | some last => if isDriveLetter last then done else done.dropLast
  | none => []

/-- A dot, written plain or percent-encoded, stays in place; two go up. -/
inductive Dots
  | stay
  | up
  deriving DecidableEq, Repr

/-- The segment with `%2e` in either case read as a dot. -/
def plainDots : List Char → List Char
  | '%' :: '2' :: c :: rest =>
    if c == 'e' || c == 'E' then '.' :: plainDots rest else '%' :: '2' :: c :: plainDots rest
  | c :: rest => c :: plainDots rest
  | [] => []

def dots? (segment : List Char) : Option Dots :=
  if plainDots segment == ['.'] then some .stay
  else if plainDots segment == ['.', '.'] then some .up
  else none

/-- The segments in `done`, each followed by a slash, and one more with a slash behind it. -/
def addDirectory (done : List (List Char)) (segment : List Char) : List (List Char) :=
  match dots? segment with
  | some .up => parent done
  | some .stay => done
  | none => done ++ [segment]

/-- The segments in `done`, and one more that ends the path. -/
def addLast (done : List (List Char)) (segment : List Char) : List (List Char) :=
  match dots? segment with
  | some .up => parent done ++ [[]]
  | some .stay => done ++ [[]]
  | none => done ++ [segment]

/-- The path without its first slash, in normal form. -/
def normalPath (done : List (List Char)) : List (List Char) → List (List Char)
  | [] => addLast done []
  | [last] => addLast done last
  | segment :: rest => normalPath (addDirectory done segment) rest

/-- A backslash parts segments as a slash does. -/
def readPath (cs : List Char) : List (List Char) :=
  let slashed := cs.map fun c => if c == '\\' then '/' else c
  normalPath [] ((Text.splitOn '/' slashed).map (Percent.encode Percent.inPath))

/-- Control characters and spaces at both ends are ignored, tabs and line ends everywhere. -/
def cleaned (cs : List Char) : List Char :=
  let outer (c : Char) : Bool := c.toNat ≤ 0x20
  (((cs.dropWhile outer).reverse.dropWhile outer).reverse).filter fun c =>
    !(c == '\t' || c == '\n' || c == '\r')

/-- The text before the first colon, in lower case, if it is a scheme, and the text after that. -/
def cutScheme? (cs : List Char) : Option (List Char × List Char) :=
  let name := cs.takeWhile (· != ':')
  if name.head?.any Char.isAlpha
      && name.all (fun c => c.isAlphanum || c == '+' || c == '-' || c == '.')
      && cs.length != name.length then
    some (name.map Char.toLower, cs.drop (name.length + 1))
  else none

/-- What ends the authority. -/
def endsAuthority (c : Char) : Bool := c == '/' || c == '\\' || c == '?' || c == '#'

/-- The text before the last at sign, if there is one, and the text after it. -/
def cutUserinfo (authority : List Char) : Option (List Char) × List Char :=
  let host := (authority.reverse.takeWhile (· != '@')).reverse
  if host.length == authority.length then (none, host)
  else (some (authority.take (authority.length - host.length - 1)), host)

/-- User name, and password if there is one that is not empty. -/
def readUserinfo (cs : List Char) : List Char × Option (List Char) :=
  let name := cs.takeWhile (· != ':')
  let password := cs.drop (name.length + 1)
  (Percent.encode Percent.inUserinfo name,
    if password.isEmpty then none else some (Percent.encode Percent.inUserinfo password))

/-- How many characters stand before the first colon outside of brackets. -/
def hostLength : (inside : Bool) → List Char → Nat
  | _, [] => 0
  | inside, c :: cs =>
    if c == ':' && !inside then 0
    else hostLength (if c == '[' then true else if c == ']' then false else inside) cs + 1

/-- The host's text, and the port's if a colon is there. -/
def cutPort (cs : List Char) : List Char × Option (List Char) :=
  let n := hostLength false cs
  (cs.take n, if n < cs.length then some (cs.drop (n + 1)) else none)

/-- Decimal, below 65536; no digits mean no port. -/
def readPort (cs : List Char) : Except UrlFault (Option Nat) :=
  if !cs.all Char.isDigit then .error .port
  else if cs.isEmpty then .ok none
  else
    let n := cs.foldl (fun n c => n * 10 + (c.toNat - '0'.toNat)) 0
    if n < 65536 then .ok (some n) else .error .port

/-- Host and port. -/
def readServer (cs : List Char) : Except UrlFault (Host × Option Nat) := do
  let (host, port) := cutPort cs
  if host.isEmpty then .error .emptyHost
  else
    let host ← Host.parse host
    match port with
    | none => .ok (host, none)
    | some port => do
      let port ← readPort port
      .ok (host, port)

/-- All that follows the scheme and its colon. Any slashes may stand before the authority. Query and
fragment are dropped. -/
def readHierarchy (scheme : Scheme) (cs : List Char) : Except UrlFault Url := do
  let cs := cs.dropWhile fun c => c == '/' || c == '\\'
  let authority := cs.takeWhile (!endsAuthority ·)
  let path := (cs.dropWhile (!endsAuthority ·)).takeWhile fun c => c != '?' && c != '#'
  let (userinfo, server) := cutUserinfo authority
  let (username, password) := readUserinfo (userinfo.getD [])
  let (host, port) ← readServer server
  .ok
    { scheme, username, password, host
      port := port.filter (· != scheme.defaultPort)
      path := readPath (path.drop 1) }

end Url

end Lineage
