/-
The registry of sessions.

Connections resolve the session of each request here and retire the sessions they made when they
end; the host's tick makes, removes and lists sessions. A session that a connection retires is kept
aside until the next tick has closed it in the evaluator.

* `Session`, `Registry`: the registered sessions, oldest first, the retired ones, and the source of
  new ids.
* `Owned`: the sessions a connection made: its default one, and one for each unknown id it named.
* `Registry.resolve`: the session of a request.
* `Registry.retireConnection`, `takeRetired`: the way out of the sessions of a connection.
-/
import HostedRepl.Session.Id
import HostedRepl.Table
import HostedRepl.Wire.Value

namespace HostedRepl

/-- What made a session. -/
inductive Origin where
  /-- A request to clone; it lives until it is closed or the server stops. -/
  | cloned
  /-- A connection; it is retired with the connection. -/
  | connection
  deriving DecidableEq, Repr

/-- A registered session. -/
structure Session where
  id : SessionId
  origin : Origin
  /-- The id of the last request worked on in the session. -/
  lastOp : Option Wire.Value

/-- The sessions a connection made without being asked to. -/
structure Owned where
  /-- The session of requests that name none. -/
  default : Option SessionId
  /-- The sessions that stand in for unknown ids, by the text that was asked for. -/
  standIns : Table SessionId

/-- The registered and retired sessions. -/
structure Registry where
  /-- The registered sessions, oldest first. -/
  sessions : List Session
  /-- The sessions removed by connections and not yet closed in the evaluator. -/
  retired : List SessionId
  /-- The ids that new sessions get, in order. -/
  source : Nat → SessionId
  /-- How many ids have been drawn. -/
  drawn : Nat

/-- A connection that has made no session. -/
def Owned.none : Owned := ⟨Option.none, []⟩

/-- The sessions a connection made, its default one first. -/
def Owned.ids (o : Owned) : List SessionId := o.default.toList ++ o.standIns.map Prod.snd

namespace Registry

/-- A registry without sessions. -/
def empty (source : Nat → SessionId) : Registry := ⟨[], [], source, 0⟩

/-- The registered ids, oldest first. -/
def ids (r : Registry) : List SessionId := r.sessions.map Session.id

/-- The session with an id. -/
def get? (r : Registry) (id : SessionId) : Option Session := r.sessions.find? fun s => s.id == id

/-- A session with this id is registered. -/
def contains (r : Registry) (id : SessionId) : Bool := r.ids.contains id

/-- Register a session under the next id of the source. -/
def create (r : Registry) (origin : Origin) : SessionId × Registry :=
  let id := r.source r.drawn
  (id, { r with sessions := r.sessions ++ [⟨id, origin, none⟩], drawn := r.drawn + 1 })

/-- The session of a request that names none: the default one, made if there is none. -/
def resolveDefault (r : Registry) (o : Owned) : SessionId × Registry × Owned :=
  match o.default.filter r.contains with
  | some id => (id, r, o)
  | none =>
    let (id, r) := r.create .connection
    (id, r, { o with default := some id })

/-- The session that stands in for an unknown id, made if there is none. -/
def resolveUnknown (r : Registry) (o : Owned) (requested : String) :
    SessionId × Registry × Owned :=
  match (o.standIns.find? requested).filter r.contains with
  | some id => (id, r, o)
  | none =>
    let (id, r) := r.create .connection
    (id, r, { o with standIns := o.standIns.set requested id })

/-- The session of a request on a connection. -/
def resolve (r : Registry) (o : Owned) : (requested : Option String) →
    SessionId × Registry × Owned
  | none => r.resolveDefault o
  | some requested =>
    match (SessionId.parse? requested).filter r.contains with
    | some id => (id, r, o)
    | none => r.resolveUnknown o requested

/-- Remove a session; the caller closes it in the evaluator. -/
def remove (r : Registry) (id : SessionId) : Registry :=
  { r with sessions := r.sessions.filter fun s => s.id != id }

/-- Remove a session that the next tick has to close in the evaluator. -/
def retire (r : Registry) (id : SessionId) : Registry :=
  if r.contains id then { r.remove id with retired := r.retired ++ [id] } else r

/-- Retire what a connection made. -/
def retireConnection (r : Registry) (o : Owned) : Registry := o.ids.foldl retire r

/-- The retired sessions, which are then no longer kept. -/
def takeRetired (r : Registry) : List SessionId × Registry := (r.retired, { r with retired := [] })

/-- Note the id of a request worked on in a session. -/
def noteOp (r : Registry) (id : SessionId) (op : Option Wire.Value) : Registry :=
  { r with sessions := r.sessions.map fun s => if s.id = id then { s with lastOp := op } else s }

/-- Forget all sessions, retired ones too. -/
def clear (r : Registry) : Registry := { r with sessions := [], retired := [] }

end Registry

end HostedRepl
