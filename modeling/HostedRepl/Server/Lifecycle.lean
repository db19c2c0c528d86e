/-
Starting and stopping servers in a host.

A host has at most one server, whoever starts it. A start takes what it needs one after the other:
the endpoint, the port file, a thread that accepts connections, and ticks. If one of these is
refused, the start fails; for want of a moment for the first tick it panics.

* `StartError`: why a server could not be started.
* `System`: what a start finds of the system.
* `Host`: the server, if there is one, with the owner that holds it; the scheduler that ticks
  it; and the files around it.
* `StartFailure`, `Host.start`: the way a start ends without a server, and the start.
* `Host.stop`, `shutdown`: the end of a server, and the end that its owner puts to it.
* `Host.runDue`: the due ticks run.
-/
import HostedRepl.Config.Basic
import HostedRepl.Files
import HostedRepl.Server.Connection

namespace HostedRepl

open Bridge

/-- Why a thread could not be spawned. -/
inductive ThreadFault where
  | tooMany
  | noMemory
  deriving DecidableEq, Repr

/-- The wording of a fault. -/
def ThreadFault.message : ThreadFault → String
  | tooMany => "Resource temporarily unavailable (os error 11)"
  | noMemory => "Cannot allocate memory (os error 12)"

/-- Why a server could not be started. -/
inductive StartError where
  | alreadyRunning (endpoint : Endpoint)
  | invalidConfig (fault : ConfigFault)
  | bind (address : String) (fault : NetworkFault)
  | portFile (path : String) (fault : FileFault)
  | spawn (fault : ThreadFault)

/-- The wording of a failed start. -/
def StartError.message : StartError → String
  | alreadyRunning endpoint => "an nREPL server is already running on " ++ endpoint.text
  | invalidConfig fault => "invalid server config: " ++ fault.message
  | bind address fault => "could not bind " ++ address ++ ": " ++ fault.message
  | portFile path fault => "could not write port file " ++ path ++ ": " ++ fault.message
  | spawn fault => "could not spawn the accept thread: " ++ fault.message

/-- What a start finds of the system. -/
structure System where
  network : Network
  /-- The disk the port file is to be on. -/
  disk : Disk
  /-- Why no thread can be spawned, if none can. -/
  threadFault : Option ThreadFault

/-- A system that refuses nothing but what its network does. -/
def System.sound (network : Network) : System := ⟨network, .sound, none⟩

/-- The address to bind: a host with colons is put in brackets. -/
def bindAddress (host : String) (port : UInt16) : String :=
  let host := if host.contains ':' && !host.startsWith "[" then "[" ++ host ++ "]" else host
  host ++ ":" ++ toString port.toNat

/-- The servers of a host. Owners are told apart by number. -/
structure Host (σ : Type) where
  /-- The servers that owners hold, with the number of the tick task of each. -/
  held : List (Nat × Nat × Server σ)
  /-- The endpoint that is taken for the whole host. -/
  active : Option Endpoint
  /-- The tick tasks by number. -/
  scheduler : Scheduler Nat
  /-- The number of the next tick task. -/
  nextTask : Nat
  files : Files
  /-- The endpoints of starts that have panicked. The threads that accept there go on, and nobody
  holds them. -/
  forsaken : List Endpoint

/-- How a start ends without a server. -/
inductive StartFailure where
  | refused (e : StartError)
  | panicked (o : Overflow)

namespace Host

variable {σ : Type}

/-- A host without servers. -/
def empty (files : Files) : Host σ := ⟨[], none, .empty, 0, files, []⟩

/-- The server an owner holds. -/
def server? (h : Host σ) (owner : Nat) : Option (Server σ) :=
  (List.lookup owner h.held).map Prod.snd

/-- The endpoint that keeps an owner from starting a server. -/
def taken? (h : Host σ) (owner : Nat) : Option Endpoint :=
  ((h.server? owner).map Server.endpoint).or h.active

/-! ### Starting -/

/-- The endpoint for a server that an owner wants to start. -/
def reserve (h : Host σ) (net : Network) (owner : Nat) (config : ServerConfig) :
    Except StartError Endpoint :=
  match h.taken? owner with
  | some endpoint => .error (.alreadyRunning endpoint)
  | none =>
    match config.validate with
    | .error fault => .error (.invalidConfig fault)
    | .ok () =>
      match net.bind config.host config.port.toNat with
      | .error fault => .error (.bind (bindAddress config.host config.port) fault)
      | .ok endpoint => .ok endpoint

/-- Write the port file, if there is to be one. -/
def writePort (files : Files) (disk : Disk) (port : Nat) :
    Option String → Except StartError Unit × Files
  | none => (.ok (), files)
  | some path =>
    match files.write path (Wire.Bytes.ofNat port) disk with
    | (.ok (), files) => (.ok (), files)
    | (.error fault, files) => (.error (.portFile path fault), files)

/-- Remove a port file; one that is gone is no fault, and one that cannot be removed stays. -/
def removePort (files : Files) : Option String → Files
  | none => files
  | some path =>
    match files.remove path with
    | .ok files => files
    | .error _ => files

/-- Spawn the thread that accepts connections. If that fails the port file is removed again. -/
def spawn (h : Host σ) (sys : System) (config : ServerConfig) : Except StartError Unit × Host σ :=
  match sys.threadFault with
  | none => (.ok (), h)
  | some fault => (.error (.spawn fault), { h with files := removePort h.files config.portFile })

/-- Give the server its ticks from the moment `now` on, and the server to its owner. -/
def enroll (h : Host σ) (source : Nat → SessionId) (now : Moment) (owner : Nat)
    (config : ServerConfig) (endpoint : Endpoint) (s : σ) : Except Overflow Unit × Host σ :=
  let interval := config.tickInterval
  let exchange := Exchange.start source s interval
  let server := Server.start endpoint config.host exchange config.portFile
  match h.scheduler.register h.nextTask now interval with
  | (.ok timer, scheduler) =>
    (.ok (),
      { h with
        held := (owner, h.nextTask, { server with timer := some timer }) :: h.held
        active := some endpoint
        scheduler
        nextTask := h.nextTask + 1 })
  | (.error o, scheduler) => (.error o, { h with scheduler, forsaken := endpoint :: h.forsaken })

/-- Start a server on an evaluator in the state `s`, at the moment `now`. Its sessions get their
ids from `source`. -/
def start (h : Host σ) (sys : System) (source : Nat → SessionId) (now : Moment) (owner : Nat)
    (config : ServerConfig) (s : σ) : Except StartFailure Unit × Host σ :=
  match h.reserve sys.network owner config with
  | .error e => (.error (.refused e), h)
  | .ok endpoint =>
    match writePort h.files sys.disk endpoint.port config.portFile with
    | (.error e, files) => (.error (.refused e), { h with files })
    | (.ok (), files) =>
      match { h with files }.spawn sys config with
      | (.error e, h) => (.error (.refused e), h)
      | (.ok (), h) =>
        match h.enroll source now owner config endpoint s with
        | (.error o, h) => (.error (.panicked o), h)
        | (.ok (), h) => (.ok (), h)

/-! ### Stopping -/

/-- What a server has of its host is given back: its ticks and its port file. -/
def release (h : Host σ) (server : Server σ) : Host σ :=
  let scheduler := match server.timer with
    | some timer => (h.scheduler.unregister timer).2
    | none => h.scheduler
  { h with scheduler, files := removePort h.files server.portFile }

/-- Stop a server, once. The items that were waiting are given back as answered, with the server as
it ends. -/
def stop (h : Host σ) (server : Server σ) : List WorkItem × Server σ × Host σ :=
  let (settled, stopped) := server.stop
  (settled, stopped, if server.shutDown then h else h.release server)

/-- Stop the server of an owner. It is stopped once more as it goes. -/
def shutdown (h : Host σ) (owner : Nat) : List WorkItem × Option (Server σ) × Host σ :=
  match h.server? owner with
  | none => ([], none, h)
  | some server =>
    let h := { h with held := h.held.filter fun e => e.1 != owner }
    let (settled, stopped, h) := h.stop server
    let (_, gone, h) := { h with active := none }.stop stopped
    (settled, some gone, h)

/-! ### Ticking -/

/-- Change the server an owner holds. -/
def onServer (h : Host σ) (owner : Nat) (f : Server σ → Server σ) : Host σ :=
  { h with
    held := h.held.map fun (o, task, s) => if o = owner then (o, task, f s) else (o, task, s) }

/-- The tick with a number: that of the server it belongs to, or the last one if that server is
gone. -/
def tickTask (ev : Evaluator σ) (h : Host σ) (task : Nat) : TickControl × Host σ :=
  match h.held.find? fun e => e.2.1 == task with
  | some (owner, _, server) =>
    let (control, server) := server.tick ev
    (control, h.onServer owner fun _ => server)
  | none => (.stop, h)

instance : MonadStateOf (Scheduler Nat) (StateM (Host σ)) where
  get := fun h => (h.scheduler, h)
  set scheduler := fun h => ((), { h with scheduler })
  modifyGet f := fun h =>
    let (a, scheduler) := f h.scheduler
    (a, { h with scheduler })

/-- The tick of an entry of the scheduler. -/
def tickEntry (ev : Evaluator σ) (e : Entry Nat) : Hosted (Host σ) (TickControl × Nat) := do
  let control ← modifyGetThe (Host σ) fun h => h.tickTask ev e.task
  return (control, e.task)

/-- Run the ticks that are due, and count them. -/
def runDue (ev : Evaluator σ) (now : Moment) : Hosted (Host σ) Nat :=
  Scheduler.runDue (tickEntry ev) (fun _ => pure ()) now

/-- Run all ticks at the moment `now`, and count them. -/
def runAll (ev : Evaluator σ) (now : Moment) : Hosted (Host σ) Nat :=
  Scheduler.runAll (tickEntry ev) (fun _ => pure ()) now

end Host

end HostedRepl
