/-
Requests and responses.

Both are dictionaries with text keys. Any operation and any further key is allowed, so a message is
its fields, with names for the well-known ones.

* `Request`: what a client sends: `op`, `id`, `session` and the keys of the operation.
* `Response`: what it gets back: the request's `id`, a `session`, and on the last response to a
  request a `status` that holds `done`.
* `Status`: the entries of a `status`.
-/
import HostedRepl.Wire.Decode

namespace HostedRepl.Wire

/-- The entries of a `status` that the server uses. -/
inductive Status where
  | done
  | error
  | evalError
  | unknownOp
  | unknownSession
  | sessionClosed
  | serverShutdown
  deriving DecidableEq, Repr

/-- A status entry as it stands in a message. -/
def Status.text : Status → String
  | .done => "done"
  | .error => "error"
  | .evalError => "eval-error"
  | .unknownOp => "unknown-op"
  | .unknownSession => "unknown-session"
  | .sessionClosed => "session-closed"
  | .serverShutdown => "server-shutdown"

/-- What a client sends. -/
structure Request where
  fields : Fields
  deriving DecidableEq

/-- What a client gets back. -/
structure Response where
  fields : Fields
  deriving DecidableEq

namespace Request

/-- A request with one more field. -/
def put (r : Request) (key : String) (v : Value) : Request := ⟨r.fields.put key v⟩

/-- A request for an operation. -/
def forOp (op : String) : Request := ⟨Fields.put [] "op" (.text op)⟩

/-- A request for a session. -/
def inSession (r : Request) (session : String) : Request := r.put "session" (.text session)

/-- Only a dictionary is a request. -/
def ofValue : Value → Except DecodeError Request
  | .dict fields => .ok ⟨fields⟩
  | _ => .error .notADict

/-- The frame of a request. -/
def toValue (r : Request) : Value := .dict r.fields

/-- The operation, if it is a text. -/
def op (r : Request) : Option String := r.fields.text? "op"

/-- The id that every response to the request repeats, of any kind. -/
def id (r : Request) : Option Value := r.fields.field? "id"

/-- The session, if it is a text. -/
def session (r : Request) : Option String := r.fields.text? "session"

end Request

namespace Response

/-- A response without fields. -/
def empty : Response := ⟨[]⟩

/-- A response with one more field. -/
def put (r : Response) (key : String) (v : Value) : Response := ⟨r.fields.put key v⟩

/-- A response with a text under one more key. -/
def putText (r : Response) (key text : String) : Response := r.put key (.text text)

/-- A response with a status. -/
def withStatus (r : Response) (status : List Status) : Response :=
  r.put "status" (.texts (status.map Status.text))

/-- The start of a response: the id of the request, if it has one, and the session's name. -/
def reply (id : Option Value) (session : Option String) : Response :=
  let r := match id with
    | some v => empty.put "id" v
    | none => empty
  match session with
  | some s => r.putText "session" s
  | none => r

/-- Only a dictionary is a response. -/
def ofValue : Value → Except DecodeError Response
  | .dict fields => .ok ⟨fields⟩
  | _ => .error .notADict

/-- The frame of a response. -/
def toValue (r : Response) : Value := .dict r.fields

/-- The id of the request that is answered. -/
def id (r : Response) : Option Value := r.fields.field? "id"

/-- The session, if it is a text. -/
def session (r : Response) : Option String := r.fields.text? "session"

/-- The texts in the `status` list; none if it is absent or no list. -/
def status (r : Response) : List String :=
  match (r.fields.field? "status").bind Value.list? with
  | some items => items.filterMap Value.text?
  | none => []

/-- A text is among the status entries. -/
def hasStatus (r : Response) (entry : String) : Bool := r.status.contains entry

/-- The response is the last one to its request. -/
def isDone (r : Response) : Bool := r.hasStatus Status.done.text

end Response

end HostedRepl.Wire
