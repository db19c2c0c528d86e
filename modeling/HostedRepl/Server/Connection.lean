/-
A server and its connections.

A connection reads one request, waits for the answer, writes it back, and reads the next request.
It ends with the stream it reads from, at the first frame that is no request, or when the server no
longer takes work; the sessions it made are then retired.

* `Connection`: one client: what it has sent and not yet had read, and what has been written to it.
* `Server`: the exchange of a server with the connections it serves and keeps track of.
* `Server.accept`, `receive`, `endInput`, `hangUp`: a client comes, sends, ends its stream, goes.
* `Server.tick`: the host's tick, after which the answers are written.
* `Server.windUp`, `stop`: the end of a server. Everything it does is final, and a server that has
  been stopped is not stopped again.
-/
import HostedRepl.Bridge.Exchange
import HostedRepl.Server.Network

namespace HostedRepl

open Bridge Wire

/-- What clients are told about work refused at the end of a server. -/
def shutdownReason : String := "nREPL server is shutting down"

/-- One client. -/
structure Connection where
  id : Nat
  /-- The sessions it made. -/
  owned : Owned
  /-- The bytes it has sent that are not yet read. -/
  input : Bytes
  /-- No more bytes will come. -/
  inputEnded : Bool
  /-- The ticket of the request it waits for. -/
  waiting : Option Nat
  /-- The bytes written to it. -/
  output : Bytes
  /-- It is still served. -/
  isOpen : Bool

/-- A server: where it listens, its exchange and its connections. -/
structure Server (σ : Type) where
  endpoint : Endpoint
  host : String
  exchange : Exchange σ
  /-- The connections that have been accepted. -/
  connections : List Connection
  /-- The connections that the end of the server has to reach. -/
  tracked : List Nat
  /-- No more connections are accepted. -/
  refusing : Bool
  /-- Its ticks in the scheduler. -/
  timer : Option Handle
  /-- The file it has written its port to. -/
  portFile : Option String
  /-- It has been stopped. -/
  shutDown : Bool

/-- Write responses to a connection. -/
def Connection.write (c : Connection) (rs : List Response) : Connection :=
  { c with output := c.output ++ rs.flatMap fun r => r.toValue.encode }

/-- The next request in the input, with the bytes after it; `none` if it has not come in full. -/
def Connection.next? (c : Connection) : Option (Except DecodeError (Request × Bytes)) :=
  let decoded := decode c.input
  match decoded.result with
  | .ok v => some ((Request.ofValue v).map fun r => (r, decoded.rest))
  | .error e => if e.isDisconnect && !c.inputEnded then none else some (.error e)

namespace Server

variable {σ : Type}

/-- A server on an endpoint. -/
def start (endpoint : Endpoint) (host : String) (exchange : Exchange σ) (portFile : Option String) :
    Server σ :=
  ⟨endpoint, host, exchange, [], [], false, none, portFile, false⟩

/-- The address of a server as editors are given it. -/
def url (s : Server σ) : String := "nrepl://" ++ s.host ++ ":" ++ toString s.endpoint.port

/-- The number of connections kept track of. -/
def connectionCount (s : Server σ) : Nat := s.tracked.length

/-- The connection with an id. -/
def connection? (s : Server σ) (id : Nat) : Option Connection :=
  s.connections.find? fun c => c.id == id

/-- Put a connection in place of the one with its id. -/
def put (s : Server σ) (c : Connection) : Server σ :=
  { s with connections := s.connections.map fun old => if old.id = c.id then c else old }

/-- A connection ends. -/
def close (s : Server σ) (c : Connection) : Server σ :=
  let registry := s.exchange.registry.retireConnection c.owned
  let s := s.put { c with isOpen := false, waiting := none, owned := .none }
  { s with tracked := s.tracked.erase c.id, exchange := { s.exchange with registry } }

/-- A connection that waits for nothing goes on to its next request, if that has come. -/
def serveNext (s : Server σ) (c : Connection) : Server σ :=
  if !c.isOpen || c.waiting.isSome then s.put c
  else
    match c.next? with
    | none => s.put c
    | some (.error _) => s.close c
    | some (.ok (request, rest)) =>
      let (pushed, owned, exchange) := s.exchange.send c.owned request
      let s := { s with exchange }
      let c := { c with input := rest, owned }
      match pushed with
      | .ok item => s.put { c with waiting := some item.ticket }
      | .error item => s.close (c.write [item.refusal shutdownReason])

/-- A client connects. A server that has ended accepts nobody. -/
def accept (s : Server σ) : Option Nat × Server σ :=
  if s.refusing then (none, s)
  else
    let id := s.connections.length
    (some id,
      { s with
        connections := s.connections ++ [⟨id, .none, [], false, none, [], true⟩]
        tracked := s.tracked ++ [id] })

/-- Change a connection and let it go on. -/
def onConnection (s : Server σ) (id : Nat) (f : Connection → Connection) : Server σ :=
  match s.connection? id with
  | some c => s.serveNext (f c)
  | none => s

/-- A client sends bytes. -/
def receive (s : Server σ) (id : Nat) (bytes : Bytes) : Server σ :=
  s.onConnection id fun c => if c.inputEnded then c else { c with input := c.input ++ bytes }

/-- The stream from a client ends. -/
def endInput (s : Server σ) (id : Nat) : Server σ :=
  s.onConnection id fun c => { c with inputEnded := true }

/-- A client goes away. If a request of its own waits, the request is abandoned. -/
def hangUp (s : Server σ) (id : Nat) : Server σ :=
  match s.connection? id with
  | none => s
  | some c =>
    let s := s.close c
    match c.waiting with
    | some ticket =>
      let queue := s.exchange.queue.onChannel ticket ReplyChannel.hangUp
      { s with exchange := { s.exchange with queue } }
    | none => s

/-- The responses among replies. -/
def framesOf (rs : List Reply) : List Response :=
  rs.filterMap fun r => match r with | .frame f => some f | .finished => none

/-- Write the answer to a settled item to the connection that waits for it, which then goes on to
its next request, or ends if the answer has not been finished. -/
def deliver (s : Server σ) (item : WorkItem) : Server σ :=
  match s.connections.find? fun c => c.isOpen && c.waiting == some item.ticket with
  | none => s
  | some c =>
    let c := (c.write (framesOf item.channel.pending))
    if item.channel.pending.contains .finished then s.serveNext { c with waiting := none }
    else s.close c

/-- The host's tick. -/
def tick (ev : Evaluator σ) (s : Server σ) : TickControl × Server σ :=
  let (control, settled, exchange) := s.exchange.tick ev
  (control, settled.foldl deliver { s with exchange })

/-- The end of a server: nothing more is accepted, the waiting requests are answered with an error,
no connection is sent anything more, and no session is left. The items that were waiting are given
back as answered. -/
def windUp (s : Server σ) : List WorkItem × Server σ :=
  let exchange := { s.exchange with running := false }
  let (settled, exchange) := exchange.cancel shutdownReason
  let s :=
    { s with
      shutDown := true
      exchange
      connections := s.connections.map fun c => { c with inputEnded := true }
      tracked := []
      refusing := true
      timer := none
      portFile := none }
  let s := settled.foldl deliver s
  let s := (s.connections.map Connection.id).foldl (fun s id => s.onConnection id fun c => c) s
  (settled, { s with exchange := { s.exchange with registry := s.exchange.registry.clear } })

/-- Stop a server, once. -/
def stop (s : Server σ) : List WorkItem × Server σ := if s.shutDown then ([], s) else s.windUp

end Server

end HostedRepl
