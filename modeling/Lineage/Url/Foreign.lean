import Lineage.Url

/-! URLs of schemes that no server here is reached by. They are told from texts that are no URL. -/

namespace Lineage.Url

/-- The port's fault. A backslash ends it. -/
def portFault? (port : List Char) : Option UrlFault :=
  match readPort (port.takeWhile (· != '\\')) with
  | .ok _ => none
  | .error fault => some fault

/-- Schemes that need a host. -/
def hostedFault? (cs : List Char) : Option UrlFault :=
  match readHierarchy .http cs with
  | .ok _ => none
  | .error fault => some fault

/-- The host of a file may be absent or a drive letter. -/
def fileFault? (cs : List Char) : Option UrlFault :=
  match cs with
  | a :: b :: rest =>
    if (a == '/' || a == '\\') && (b == '/' || b == '\\') then
      let host := rest.takeWhile (!endsAuthority ·)
      if host.isEmpty || isDriveLetter host then none
      else match Host.parse host with
        | .ok _ => none
        | .error fault => some fault
    else none
  | _ => none

/-- Any other scheme. Without two slashes there is no authority to be wrong; with them, a user or a
port needs a host. -/
def otherFault? (cs : List Char) : Option UrlFault :=
  match cs with
  | '/' :: '/' :: rest =>
    let ends (c : Char) : Bool := c == '/' || c == '?' || c == '#'
    let authority := rest.takeWhile (!ends ·)
    let after := rest.dropWhile (!ends ·)
    let (userinfo, server) := cutUserinfo authority
    let (username, password) := readUserinfo (userinfo.getD [])
    let (host, port) := cutPort server
    if userinfo == some [] && server.isEmpty && !after.isEmpty then some .emptyHost
    else (Host.opaqueFault? host).or <|
      if host.isEmpty && (port.isSome || !username.isEmpty || password.isSome) then some .emptyHost
      else port.bind portFault?
  | _ => none

def foreignFault? (scheme : List Char) (cs : List Char) : Option UrlFault :=
  let name := String.ofList scheme
  if name == "ftp" || name == "ws" || name == "wss" then hostedFault? cs
  else if name == "file" then fileFault? cs
  else otherFault? cs

end Lineage.Url
