import Lineage.Json.Value
import Lineage.Payload
import Lineage.Text.Charset
import Lineage.Text.Quoted
import Lineage.Transfer.Error
import Lineage.Transfer.Retry

/-! Asking a server for its refs and objects. -/

namespace Lineage

/-- The one who makes requests. -/
structure Client where
  userAgent : String
  sessionId : String
  retry : RetryPolicy
  deriving DecidableEq, Repr

/-- A client and the server it talks to. -/
structure Server where
  client : Client
  base : Url
  deriving DecidableEq

section

variable {m : Type → Type} [Monad m]

namespace Client

/-- What an answer's body says: its text on success, an error otherwise. -/
def readReply (url : Url) (reply : Reply) : Except RequestError String :=
  let body := reply.body.map (Text.ofBody reply.contentType)
  if reply.isSuccess then body.mapError (.transport url.text)
  else match body with
    | .ok text => .error (.status url.text reply.status text)
    | .error _ => .error (.status url.text reply.status "Unknown error")

def fetchText (net : Network m) (client : Client) (url : Url) : m (Except RequestError String) := do
  let requestId ← net.freshId
  let request : Request := ⟨url, client.userAgent, requestId, client.sessionId⟩
  let once := if request.isSendable then net.exchange request else pure (.failed .unsendable)
  match ← sendWithRetry net client.retry once with
  | .failed fault => pure (.error (.transport url.text fault))
  | .answered reply => pure (readReply url reply)

/-- A blank body is an empty answer; any other has to be JSON that `read` takes. -/
def readBody {α : Type} (url : Url) (read : Json.Document → Option α) (body : String) :
    Except RequestError (Option α) :=
  if Text.isAllBlank body then .ok none
  else match Json.Document.parse? body with
    | none => .error (.undecodable url.text .notJson)
    | some d =>
      match read d with
      | none => .error (.undecodable url.text .otherShape)
      | some value => .ok (some value)

def fetch {α : Type} (net : Network m) (client : Client) (url : Url)
    (read : Json.Document → Option α) : m (Except RequestError (Option α)) := do
  let body ← fetchText net client url
  pure (body.bind (readBody url read))

end Client

namespace Server

/-- A server that a text names. -/
def connect (client : Client) (raw : String) : Except RequestError Server :=
  match Url.server raw with
  | .ok base => .ok ⟨client, base⟩
  | .error fault => .error (.invalidUrl raw fault)

/-- An empty answer lists nothing. -/
def fetchRefs (net : Network m) (s : Server) : m (Except RequestError RefSet) := do
  let answer ← s.client.fetch net s.base.refs RefSet.ofDocument?
  pure (answer.map (·.getD .empty))

def fetchCheckpoint (net : Network m) (s : Server) (hash : String) :
    m (Except RequestError (Option Checkpoint)) :=
  s.client.fetch net (s.base.object hash) (Checkpoint.ofDocument? hash)

def fetchAffix (net : Network m) (s : Server) (hash : String) :
    m (Except RequestError (Option Affix)) :=
  s.client.fetch net (s.base.object hash) (Affix.ofDocument? hash)

/-- Any object as it is. -/
def fetchObject (net : Network m) (s : Server) (hash : String) :
    m (Except RequestError (Option Json)) :=
  s.client.fetch net (s.base.object hash) Json.ofDocument?

/-- How a server is shown for diagnosis. -/
def describe (s : Server) : String :=
  "ServerConnection \x7b base_url: " ++ Text.quoted s.base.text
    ++ ", retry: RetryPolicy \x7b max_retries: " ++ toString s.client.retry.maxRetries
    ++ ", base_delay: " ++ s.client.retry.baseDelay.text ++ " \x7d \x7d"

end Server

end

end Lineage
