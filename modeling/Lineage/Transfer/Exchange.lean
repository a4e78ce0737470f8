import Lineage.Transfer.Duration
import Lineage.Url.Server

/-! Requests to servers and what comes of them. The network is a value, so that programs can be run
against any behaviour of a server. -/

namespace Lineage

/-- A request for what is at a URL, as JSON. -/
structure Request where
  url : Url
  userAgent : String
  /-- One for all attempts at a request. -/
  requestId : String
  /-- One for all requests of a client. -/
  sessionId : String
  deriving DecidableEq

namespace Request

def accept : String := "application/json"

/-- No control character other than a tab. -/
def isHeaderChar (c : Char) : Bool :=
  c == '\t' || (0x20 ≤ c.toNat && c != '\x7f')

/-- What a URL's host may hold, but not that of a request. -/
def isBarredInHost (c : Char) : Bool :=
  c == '"' || c == '\x60' || c == '\x7b' || c == '\x7d'

/-- The length of the longest URL that can be asked for. -/
def urlLimit : Nat := 65534

/-- Its headers and its URL can be written into a message. -/
def isSendable (r : Request) : Bool :=
  r.userAgent.toList.all isHeaderChar && !r.url.host.text.any isBarredInHost
    && r.url.publicText.length ≤ urlLimit

end Request

/-- Why a request brought no answer, or an answer no body. -/
inductive TransferFault
  /-- The connection could not be made. -/
  | refused
  | timedOut
  /-- The connection ended without an answer. -/
  | closed
  /-- The body broke off. -/
  | bodyBroken
  /-- Its headers or its URL keep the request from being sent. -/
  | unsendable
  deriving DecidableEq, Inhabited, Repr

namespace TransferFault

def isTransient : TransferFault → Bool
  | .refused | .timedOut | .bodyBroken => true
  | .closed | .unsendable => false

def message : TransferFault → String
  | .refused => "could not connect"
  | .timedOut => "no answer in time"
  | .closed => "connection closed before an answer"
  | .bodyBroken => "answer broke off"
  | .unsendable => "invalid header or URL"

end TransferFault

structure Reply where
  status : Nat
  contentType : Option String
  /-- Or how reading it failed. -/
  body : Except TransferFault (List UInt8)

namespace Reply

def isSuccess (r : Reply) : Bool := 200 ≤ r.status && r.status < 300

/-- Statuses worth asking again for. A server answers 500 for an object it does not have, so 500 is
final. -/
def isTransientStatus (status : Nat) : Bool :=
  status == 408 || status == 429 || status == 502 || status == 503 || status == 504

end Reply

inductive Outcome
  | failed (fault : TransferFault)
  | answered (reply : Reply)
  deriving Inhabited

/-- What a program needs of the world to make requests. -/
structure Network (m : Type → Type) where
  exchange : Request → m Outcome
  /-- A number from zero up to a bound. -/
  draw : (bound : Nat) → m (Fin (bound + 1))
  pause : Duration → m Unit
  /-- A name that no request had before. -/
  freshId : m String

end Lineage
