import HttpReplay.Client.Failure
import HttpReplay.Client.Reading
import HttpReplay.Client.Settings
import HttpReplay.Client.Synthetic
import HttpReplay.Client.Task
import HttpReplay.Http.Message
import HttpReplay.Net.ServerName
import HttpReplay.Target.Basic

/-!
A client that replays requests over one connection.

`send` always answers: a failure of whatever kind becomes a made-up response. A connection is
opened when it is needed and kept only where nothing of an answer can be left on it, so that no
byte of one response is ever taken for part of the next. Redirects are followed within `send`, each
hop being a round trip of its own.
-/

set_option autoImplicit false

namespace HttpReplay

/-- What a client keeps from one round trip to the next. -/
structure Link where
  connected : Bool
  /-- The response buffer, with what is left in it. -/
  buffer : Bytes
  deriving DecidableEq, Repr

/-- The link without its connection. -/
def Link.dropped (link : Link) : Link := { link with connected := false }

/-- A client: one per worker, never shared. -/
structure Client where
  target : Target
  settings : Client.Settings
  link : Link
  /-- Redirects followed for the request at hand. -/
  redirects : Nat
  deriving DecidableEq, Repr

/-- What a request is answered with. -/
inductive Reply where
  | answered (response : Bytes)
  /-- A made-up response, and what it stands for. -/
  | failed (why : Failure) (response : Bytes)
  deriving DecidableEq, Repr

/-- The response, real or made up. -/
def Reply.response : Reply → Bytes
  | answered response => response
  | failed _ response => response

namespace Client

/-- A client without a connection. -/
def create (target : Target) (settings : Settings) : Client :=
  { target, settings := settings.completed, link := ⟨false, []⟩, redirects := 0 }

def isConnected (c : Client) : Bool := c.link.connected

/-! ## Connecting -/

/-- How long the probe of a connection waits for a byte. -/
def probeLimit : Duration := Duration.millisecond

/-- Whether a connection is worth using: only an ended stream speaks against it. The probe is a
read, so a byte that was waiting is lost. -/
def probe (link : Link) : Task Bool :=
  if link.connected then
    .now fun now => .read 1 (now + probeLimit) fun
      | .ended => .done false
      | _ => .done true
  else .done false

/-- Secures a new connection. -/
def secure (target : Target) (settings : Settings) (link : Link) :
    Task (Link × Except Failure Unit) :=
  let name := Net.ServerName.ofHost target.host
  let fail (why : Failure) : Task (Link × Except Failure Unit) :=
    .close (.done (link.dropped, .error why))
  if Net.ServerName.isValid name then
    .now fun now => .handshake name (now + settings.dialLimit) fun
      | .secured => .done ({ link with connected := true }, .ok ())
      | .failed reason => fail (.handshake target.host reason)
      | .timedOut => fail (.handshakeTimeout target.host)
  else fail (.handshake target.host "invalid dns name")

/-- Opens a connection, dropping the one that there may be. -/
def connect (target : Target) (settings : Settings) (link : Link) :
    Task (Link × Except Failure Unit) :=
  let link := link.dropped
  let fail (why : DialFailure) : Task (Link × Except Failure Unit) :=
    .done (link, .error (.dial why))
  .close <| .now fun now => .dial target.dialAddress (now + settings.dialLimit) fun
    | .connected =>
      if target.isSecure then secure target settings link
      else .done ({ link with connected := true }, .ok ())
    | .unresolved reason => fail (.unresolved target.dialAddress reason)
    | .noAddress => fail (.noAddress target.dialAddress)
    | .refused reason => fail (.refused target.dialAddress reason)
    | .timedOut => fail (.timedOut target.dialAddress settings.dialLimit)

/-- Makes sure of a connection that is worth using. -/
def ensureConnected (target : Target) (settings : Settings) (link : Link) :
    Task (Link × Except Failure Unit) :=
  (probe link).bind fun alive =>
    if alive then .done (link, .ok ()) else connect target settings link

/-! ## One round trip -/

/-- The request as it is written. -/
def wire (target : Target) (settings : Settings) (request : Bytes) : Bytes :=
  if settings.originalHost then request else Http.setHost (Bytes.ofText target.authority) request

/-- Whether the connection may be used again after a response was read. -/
def keeps (headRequest : Bool) (r : Reading.Result) : Bool :=
  match r.reason with
  | .framed | .drained => true
  | .timedOut => 0 < r.count && Http.framing headRequest r.response != .incomplete
  | .bufferFull | .peerClosed | .failed _ => false

def outcome (settings : Settings) (r : Reading.Result) : Except Failure Bytes :=
  if r.count = 0 then
    .error (match r.reason with
      | .timedOut => .readTimeout settings.timeout
      | .failed reason => .read reason
      | _ => .closed)
  else .ok r.response

/-- Reads the response to a request that was written. -/
def receive (settings : Settings) (link : Link) (headRequest : Bool) (deadline : Instant) :
    Task (Link × Except Failure Bytes) :=
  (Reading.readResponse settings.capacity deadline headRequest link.buffer).bind fun r =>
    let link' : Link := ⟨keeps headRequest r, r.buffer⟩
    let result := (link', outcome settings r)
    if link'.connected then .done result else .close (.done result)

/-- Sends one request and reads its response. -/
def roundTrip (target : Target) (settings : Settings) (link : Link) (request : Bytes) :
    Task (Link × Except Failure Bytes) :=
  (ensureConnected target settings link).bind fun
    | (link, .error why) => .done (link, .error why)
    | (link, .ok ()) =>
      let data := wire target settings request
      let fail (why : Failure) : Task (Link × Except Failure Bytes) :=
        .close (.done (link.dropped, .error why))
      .now fun now =>
        let deadline := now + settings.timeout
        .write data deadline fun
          | .written => receive settings link (Http.isHeadRequest data) deadline
          | .failed reason => fail (.write reason)
          | .timedOut => fail (.writeTimeout settings.timeout)

/-! ## Redirects -/

/-- A request for the resource at `location`. -/
def getRequest (location : Bytes) : Bytes :=
  Bytes.ofText "GET " ++ location ++ Bytes.ofText " HTTP/1.1\r\n\r\n"

/-- Where a response redirects to: the Location of one whose status begins with a 3. -/
def redirection? (response : Bytes) : Option Bytes :=
  match Http.status response with
  | some (0x33 :: _) => Http.header (Bytes.ofText "Location") response
  | _ => none

/-- The next request of a chain of redirects, while the limit allows one more. -/
def redirectRequest? (settings : Settings) (redirects : Nat) (response : Bytes) : Option Bytes :=
  if redirects < settings.redirectLimit then (redirection? response).map getRequest else none

theorem lt_of_redirectRequest? {settings : Settings} {redirects : Nat} {response next : Bytes}
    (h : redirectRequest? settings redirects response = some next) :
    redirects < settings.redirectLimit := by
  unfold redirectRequest? at h
  split at h
  · assumption
  · simp at h

/-- Sends a request and then one for each redirect. Returns the link, the count of redirects to
begin the next request with, and the reply. -/
def chase (target : Target) (settings : Settings) (redirects : Nat) (link : Link)
    (request : Bytes) : Task (Link × Nat × Reply) :=
  (roundTrip target settings link request).bind fun
    | (link, .error why) =>
      .date fun today => .done (link, 0, .failed why (why.status.response today))
    | (link, .ok response) =>
      match h : redirectRequest? settings redirects response with
      | none => .done (link, 0, .answered response)
      | some next =>
        have := lt_of_redirectRequest? h
        chase target settings (redirects + 1) link next
termination_by settings.redirectLimit - redirects

/-! ## The client's operations -/

/-- **Sends a request and returns its response**, real or made up. -/
def send (c : Client) (request : Bytes) : Task (Client × Reply) :=
  (chase c.target c.settings c.redirects c.link request).bind fun (link, redirects, reply) =>
    .done ({ c with link, redirects }, reply)

/-- Sends a request for a path. -/
def get (c : Client) (path : String) : Task (Client × Reply) :=
  c.send (getRequest (Bytes.ofText path))

/-- Opens a new connection. -/
def reconnect (c : Client) : Task (Client × Except Failure Unit) :=
  (connect c.target c.settings c.link).bind fun (link, result) => .done ({ c with link }, result)

def disconnect (c : Client) : Task Client := .close (.done { c with link := c.link.dropped })

/-- Whether the connection is worth using. -/
def isAlive (c : Client) : Task Bool := probe c.link

end Client
end HttpReplay
