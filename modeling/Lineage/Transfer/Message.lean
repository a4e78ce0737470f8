import Lineage.Text.Base64
import Lineage.Text.Blank
import Lineage.Text.Charset
import Lineage.Transfer.Exchange

/-! Requests and replies as HTTP/1.1 writes them, one request for each connection. -/

namespace Lineage

namespace Request

/-- User name and password, if the URL has them. -/
def credentials (u : Url) : List (String × String) :=
  if u.username.isEmpty && u.password.isNone then []
  else
    let plain (cs : List Char) : List UInt8 := Percent.decode (Text.Utf8.encode cs)
    let bytes := plain u.username ++ [58] ++ plain (u.password.getD [])
    [("authorization", "Basic " ++ String.ofList (Text.Utf8.decodeLossy (Text.Base64.encode bytes)))]

def headers (r : Request) : List (String × String) :=
  [("host", String.ofList (r.url.host.text ++ r.url.portText)), ("accept", accept),
    ("user-agent", r.userAgent), ("x-request-id", r.requestId),
    ("x-request-session-id", r.sessionId), ("connection", "close")] ++ credentials r.url

def message (r : Request) : String :=
  "GET " ++ String.ofList (Url.pathText r.url.path) ++ " HTTP/1.1\r\n"
    ++ String.join (r.headers.map fun (name, value) => name ++ ": " ++ value ++ "\r\n") ++ "\r\n"

end Request

namespace Reply

/-- The bytes up to the first line end, and those behind it. -/
def cutLine? : List UInt8 → Option (List UInt8 × List UInt8)
  | 13 :: 10 :: rest => some ([], rest)
  | b :: rest => (cutLine? rest).map fun (line, rest) => (b :: line, rest)
  | [] => none

theorem length_of_cutLine? {bytes line rest : List UInt8} (h : cutLine? bytes = some (line, rest)) :
    rest.length < bytes.length := by
  fun_induction cutLine? bytes generalizing line rest with
  | case1 tail =>
    cases h
    rw [List.length_cons, List.length_cons]
    omega
  | case2 b tail _ ih =>
    obtain ⟨⟨l, r⟩, hr, heq⟩ := Option.map_eq_some_iff.1 h
    cases heq
    have := ih hr
    rw [List.length_cons]
    omega
  | case3 => cases h

def latin1 (bytes : List UInt8) : List Char := bytes.map fun b => Char.ofNat b.toNat

/-- Name, in lower case, and value of a header. -/
def header (line : List UInt8) : String × String :=
  let cs := latin1 line
  let name := cs.takeWhile (· != ':')
  (String.ofList (name.map Char.toLower),
    String.ofList (Text.trimmed (cs.drop (name.length + 1))))

/-- The lines up to the first empty one, and the bytes behind that. -/
def cutHead? (bytes : List UInt8) : Option (List (List UInt8) × List UInt8) :=
  match h : cutLine? bytes with
  | none => none
  | some ([], rest) => some ([], rest)
  | some (line, rest) =>
    have : rest.length < bytes.length := length_of_cutLine? h
    (cutHead? rest).map fun (lines, rest) => (line :: lines, rest)
termination_by bytes.length

/-- The status, from the second word of the first line. -/
def status? (line : List UInt8) : Option Nat :=
  match Text.words (latin1 line) with
  | _ :: code :: _ => (String.ofList code).toNat?
  | _ => none

def chunkSize? (line : List UInt8) : Option Nat :=
  let digits := (latin1 line).takeWhile fun c => c != ';' && c != ' '
  if digits.isEmpty then none
  else (digits.mapM (Ipv4.digitValue? 16)).map (·.foldl (fun n d => n * 16 + d) 0)

/-- A chunked body: pieces, each after its length, up to one of length zero. -/
def unchunked? (bytes : List UInt8) : Option (List UInt8) :=
  match h : cutLine? bytes with
  | none => none
  | some (line, rest) =>
    match chunkSize? line with
    | none => none
    | some 0 => some []
    | some size =>
      if rest.length < size then none
      else
        have := length_of_cutLine? h
        (unchunked? (rest.drop (size + 2))).map (rest.take size ++ ·)
termination_by bytes.length
decreasing_by
  rw [List.length_drop]
  omega

def headerValue? (headers : List (String × String)) (name : String) : Option String :=
  (headers.find? (·.1 == name)).map Prod.snd

/-- All that came before the connection ended. A body shorter than announced broke off. -/
def ofBytes (bytes : List UInt8) : Outcome :=
  match cutHead? bytes with
  | some (first :: lines, rest) =>
    match status? first with
    | none => .failed .closed
    | some status =>
      let headers := lines.map header
      let whole (body : Option (List UInt8)) : Except TransferFault (List UInt8) :=
        match body with
        | some body => .ok body
        | none => .error .bodyBroken
      let body :=
        if status == 204 || status == 304 then .ok []
        else if (headerValue? headers "transfer-encoding").any (·.toLower == "chunked") then
          whole (unchunked? rest)
        else match (headerValue? headers "content-length").bind String.toNat? with
          | some n => whole (if rest.length < n then none else some (rest.take n))
          | none => .ok rest
      .answered ⟨status, headerValue? headers "content-type", body⟩
  | _ => .failed .closed

end Reply

end Lineage
