/-
A blocking client.

The client sends a request and reads responses until the last one to it, leaving out responses to
other requests.

* `Client`: the number of the next id it gives, the bytes it has yet to read, and the requests it
  has sent.
* `Client.send`, `receive`, `request`: the basic operations.
* `Client.eval`, `clone`, `close`, `describe`, `lsSessions`: requests for the known operations.
* `valueOf`, `outOf`: what responses say.
-/
import HostedRepl.Wire.Message
import HostedRepl.Server.Network

namespace HostedRepl

open Wire

/-- Why a client failed. -/
inductive ClientError where
  | network (fault : NetworkFault)
  | decode (e : DecodeError)
  deriving DecidableEq, Repr

/-- The wording of a client error. -/
def ClientError.message : ClientError → String
  | network fault => "socket error: " ++ fault.message
  | decode e => "protocol decode error: " ++ e.message

/-- A connected client. -/
structure Client where
  /-- The number that the next request without an id gets for one. -/
  nextId : Nat
  /-- The bytes that have come and are not yet read; no more will follow. -/
  incoming : Bytes
  /-- The requests sent, last one first. -/
  sent : List Request

namespace Client

/-- Connect to a server that will send `incoming`. -/
def connect (net : Network) (e : Endpoint) (incoming : Bytes) : Except ClientError Client :=
  match net.connect e with
  | .ok () => .ok ⟨1, incoming, []⟩
  | .error fault => .error (.network fault)

/-- Send a request, with an id of its own if it has none. The result is the id. -/
def send (c : Client) (r : Request) : Value × Client :=
  match r.id with
  | some id => (id, { c with sent := r :: c.sent })
  | none =>
    let id := Value.text (toString c.nextId)
    (id, { c with nextId := c.nextId + 1, sent := r.put "id" id :: c.sent })

/-- Read one response. -/
def receive (c : Client) : Except DecodeError Response × Client :=
  let decoded := decode c.incoming
  ((do Response.ofValue (← decoded.result)), { c with incoming := decoded.rest })

/-- Read responses up to the last one with an id, keeping those with that id. Every response takes
a byte or more, so `steps` bounds them by the length of the stream. -/
def collect (id : Value) : (steps : Nat) → Client → Except DecodeError (List Response) × Client
  | 0, c => (.error .ended, c)
  | steps + 1, c =>
    match c.receive with
    | (.error e, c) => (.error e, c)
    | (.ok r, c) =>
      if r.id = some id then
        if r.isDone then (.ok [r], c)
        else
          let (rest, c) := collect id steps c
          (rest.map (r :: ·), c)
      else collect id steps c

/-- Send a request and read its responses. -/
def request (c : Client) (r : Request) : Except DecodeError (List Response) × Client :=
  let (id, c) := c.send r
  collect id (c.incoming.length + 1) c

/-- A request in a session, if one is given. -/
def inSession (r : Request) : Option String → Request
  | some session => r.inSession session
  | none => r

/-- Evaluate a text. -/
def eval (c : Client) (code : String) (session : Option String) :
    Except DecodeError (List Response) × Client :=
  c.request (inSession ((Request.forOp "eval").put "code" (.text code)) session)

/-- Make a session; the result is its id, if the server gave one. -/
def clone (c : Client) (parent : Option String) : Except DecodeError (Option String) × Client :=
  let (rs, c) := c.request (inSession (Request.forOp "clone") parent)
  (rs.map fun rs => rs.findSome? fun r => r.fields.text? "new-session", c)

/-- Close a session. -/
def close (c : Client) (session : String) : Except DecodeError (List Response) × Client :=
  c.request ((Request.forOp "close").inSession session)

/-- Ask what the server can do. -/
def describe (c : Client) : Except DecodeError Response × Client :=
  let (rs, c) := c.request (Request.forOp "describe")
  (rs.map fun rs => rs.getLast?.getD .empty, c)

/-- Ask for the ids of the sessions. -/
def lsSessions (c : Client) : Except DecodeError (List String) × Client :=
  let (rs, c) := c.request (Request.forOp "ls-sessions")
  (rs.map fun rs =>
    (rs.filterMap fun r => (r.fields.field? "sessions").bind Value.list?).flatten.filterMap
      Value.text?, c)

/-- The first value in responses. -/
def valueOf (rs : List Response) : Option String := rs.findSome? fun r => r.fields.text? "value"

/-- The output in responses. -/
def outOf (rs : List Response) : String :=
  String.join (rs.filterMap fun r => r.fields.text? "out")

end Client

end HostedRepl
