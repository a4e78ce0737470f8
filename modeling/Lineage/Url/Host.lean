import Lineage.Text.Utf8
import Lineage.Url.Address
import Lineage.Url.Domain.Label
import Lineage.Url.Percent

/-! Hosts of URLs. -/

namespace Lineage

/-- Why a text is no URL of a server. -/
inductive UrlFault
  | relative
  | emptyHost
  | port
  | ipv4
  | ipv6
  | domain
  | opaqueHost
  | scheme (name : String)
  deriving DecidableEq, Repr

def UrlFault.reason : UrlFault → String
  | .relative => "relative URL without a base"
  | .emptyHost => "empty host"
  | .port => "invalid port number"
  | .ipv4 => "invalid IPv4 address"
  | .ipv6 => "invalid IPv6 address"
  | .domain => "invalid international domain name"
  | .opaqueHost => "invalid domain character"
  | .scheme name => "unsupported scheme '" ++ name ++ "'"

inductive Host
  | name (domain : DomainName)
  | ipv4 (address : Nat)
  | ipv6 (groups : List Nat)
  deriving DecidableEq

namespace Host

def text : Host → List Char
  | .name domain => domain.chars
  | .ipv4 address => Ipv4.text address
  | .ipv6 groups => '[' :: Ipv6.text groups ++ [']']

/-- The address between brackets. -/
def bracketed (cs : List Char) : Except UrlFault (List Nat) :=
  if cs.getLast? == some ']' then
    match Ipv6.parse? (cs.drop 1).dropLast with
    | some groups => .ok groups
    | none => .error .ipv6
  else .error .ipv6

/-- Percent-encoding is undone first. A name that ends in a number has to be an address. -/
def parse (cs : List Char) : Except UrlFault Host :=
  if cs.head? == some '[' then (bracketed cs).map .ipv6
  else
    let decoded := Text.Utf8.decodeLossy (Percent.decode (Text.Utf8.encode cs))
    match DomainName.ofChars? decoded with
    | none => .error .domain
    | some domain =>
      if domain.chars.isEmpty then .error .emptyHost
      else if Ipv4.endsInNumber domain.chars then
        match Ipv4.parse? domain.chars with
        | some address => .ok (.ipv4 address)
        | none => .error .ipv4
      else .ok (.name domain)

/-- What the host of a scheme without rules of its own may not hold. -/
def isForbiddenOpaque (c : Char) : Bool :=
  c == '\x00' || c == '\t' || c == '\n' || c == '\r' || c == ' ' || c == '#' || c == '/' || c == ':'
    || c == '<' || c == '>' || c == '?' || c == '@' || c == '[' || c == '\\' || c == ']' || c == '^'
    || c == '|'

/-- The fault of a host of such a scheme. -/
def opaqueFault? (cs : List Char) : Option UrlFault :=
  if cs.head? == some '[' then
    match bracketed cs with
    | .ok _ => none
    | .error fault => some fault
  else if cs.any isForbiddenOpaque then some .opaqueHost
  else none

end Host

end Lineage
