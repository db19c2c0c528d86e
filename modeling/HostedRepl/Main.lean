/-
The command line of the server.

What the command does is decided in `CommandLine.Program`; here it gets its arguments, the files it
names, a socket, the clock and the signals that end it. The loop is the host: in every round it
accepts connections, hands on the bytes that have come, runs the due ticks and writes what the
server has written.
-/
import HostedRepl.CommandLine.Program
import Std.Async.DNS
import Std.Async.Signal
import Std.Async.TCP

namespace HostedRepl.CommandLine

open Std.Async Std.Net

/-! ### Files -/

/-- Look at what is at a place. -/
def probe (files : Files) (place : Place) : IO Files := do
  try
    let content ← IO.FS.readBinFile ("/" ++ Files.key place)
    return files.put place (.file content.data.toList)
  catch e =>
    match e with
    | .noFileOrDirectory .. => return files
    | _ => return files.put place .directory

/-- The place itself and all places above it. -/
def upTo (place : Place) : List Place := (List.range (place.length + 1)).map place.take

/-- Look at the places that paths lead through. -/
def observe (files : Files) (paths : List String) : IO Files :=
  (paths.flatMap fun path =>
    (upTo (Path.names path)).map (·.foldl Files.descend (files.origin path))).foldlM probe files

/-- The files that are known before any path is given. -/
def surroundings : IO Files := do
  let directory := Path.names (← IO.currentDir).toString
  return .ofDirectories directory (upTo directory) []

/-- Write a file to the disk as it has become. -/
def store (files : Files) (path : String) : IO Unit := do
  match files.read path with
  | .ok content => IO.FS.writeBinFile path ⟨content.toArray⟩
  | .error _ => return ()

/-! ### Sockets -/

/-- An address with its bits in one number. -/
def addressOf : IPAddr → Address
  | .v4 a => .v4 (a.octets.foldl (fun n b => 256 * n + b.toNat) 0)
  | .v6 a => .v6 (a.segments.foldl (fun n b => 65536 * n + b.toNat) 0) 0

/-- An address with a port. -/
def socketAddress (a : IPAddr) (port : UInt16) : SocketAddress :=
  match a with
  | .v4 addr => .v4 ⟨addr, port⟩
  | .v6 addr => .v6 ⟨addr, port⟩

/-- Listen on a host and port. -/
def listen (host : String) (port : UInt16) :
    IO (Except NetworkFault (TCP.Socket.Server × Endpoint)) := do
  let addresses ← try (DNS.getAddrInfo host "").block catch _ => pure #[]
  match addresses[0]? with
  | none => return .error (Network.faultOfName host)
  | some a =>
    try
      let socket ← TCP.Socket.Server.mk
      socket.bind (socketAddress a port)
      socket.listen 128
      return .ok (socket, ⟨addressOf a, (← socket.getSockName).port.toNat⟩)
    catch e =>
      match e with
      | .resourceBusy .. => return .error .inUse
      | _ => return .error .notAvailable

/-! ### The host -/

/-- A connected client: its connection, the bytes it is sending, and how many have been written. -/
structure Peer where
  connection : Nat
  socket : TCP.Socket.Client
  incoming : AsyncTask (Option ByteArray)
  written : Nat

/-- Wait for bytes from a client. -/
def awaitBytes (socket : TCP.Socket.Client) : IO (AsyncTask (Option ByteArray)) :=
  (socket.recv? 65536).toIO

/-- Accept a connection that waits. -/
def acceptPeer (socket : TCP.Socket.Server) (s : Serving) (peers : List Peer) :
    IO (Serving × List Peer) := do
  match ← socket.tryAccept with
  | none => return (s, peers)
  | some client =>
    match s.server?.map Server.accept with
    | some (some id, server) =>
      return (s.onServer fun _ => server, ⟨id, client, ← awaitBytes client, 0⟩ :: peers)
    | _ => return (s, peers)

/-- Hand on the bytes that have come from a client. -/
def receive (s : Serving) (peer : Peer) : IO (Serving × Peer) := do
  if !(← IO.hasFinished peer.incoming) then return (s, peer)
  let bytes ← try peer.incoming.block catch _ => pure none
  match bytes with
  | some bytes =>
    let incoming ← awaitBytes peer.socket
    return (s.onServer fun server => server.receive peer.connection bytes.data.toList,
      { peer with incoming })
  | none => return (s.onServer fun server => server.endInput peer.connection, peer)

/-- Write what a server has written to a client; a client whose connection has ended is let go. -/
def deliver (server : Server Lisp.Runtime) (peer : Peer) : IO (Option Peer) := do
  match server.connection? peer.connection with
  | none => return none
  | some c =>
    let bytes := c.output.drop peer.written
    try
      unless bytes.isEmpty do (peer.socket.send ⟨bytes.toArray⟩).block
      if c.isOpen then return some { peer with written := c.output.length }
      peer.socket.shutdown.block
      return none
    catch _ => return none

/-- Write the log; of one that goes to the error output, the events from the `written`th on. -/
def writeLog (s : Serving) (written : Nat) : IO Unit := do
  match s.log.file with
  | some path => store s.host.files path
  | none => IO.eprint { s.log with events := s.log.events.drop written }.text

/-- The longest the host sleeps, in milliseconds. -/
def longestSleep : Nat := 20

/-- The moment it is. -/
def clock : IO Moment := return .ofNanoseconds (← IO.monoNanosNow)

/-- How long the host sleeps before its next round. -/
def sleepTime (s : Serving) (now : Moment) : Nat :=
  match s.host.scheduler.nextDeadline with
  | some due => min longestSleep ((due.nanoseconds - now.nanoseconds) / 1000000)
  | none => longestSleep

/-- The rounds of the host, until a signal comes or a tick panics. -/
partial def serve (socket : TCP.Socket.Server) (signals : List (AsyncTask Int)) (s : Serving)
    (peers : List Peer) : IO (Except Overflow Unit × Serving × Serving × List Peer) := do
  if ← signals.anyM fun signal => IO.hasFinished signal then return (.ok (), s, s.stop, peers)
  let (s, peers) ← acceptPeer socket s peers
  let (s, peers) ← peers.foldlM
    (fun (s, peers) peer => do
      let (s, peer) ← receive s peer
      return (s, peer :: peers))
    (s, [])
  let now ← clock
  match s.round now with
  | (.error o, stopped) => return (.error o, s, stopped, peers)
  | (.ok (), s) =>
    let peers ← match s.server? with
      | some server => peers.filterMapM (deliver server)
      | none => pure []
    IO.sleep (sleepTime s now).toUInt32
    serve socket signals s peers

/-- End the host: the waiting clients are told and the port file is removed. -/
def finish (s stopped : Serving) (peers : List Peer) : IO Unit := do
  match s.server? with
  | none => return ()
  | some server =>
    let (_, ended) := server.stop
    for peer in peers do discard <| deliver ended peer
    match server.portFile with
    | some path =>
      unless stopped.host.files.reaches path do
        try IO.FS.removeFile path catch _ => pure ()
    | none => pure ()
    writeLog stopped s.log.events.length

/-- Look at the log file that is asked for and make or empty it, if it can be. -/
def prepareLog (a : Arguments) : IO Files := do
  let files ← observe (← surroundings) a.logFile.toList
  match openLog a files .sound with
  | .ok (log, emptied) =>
    match log.file with
    | some path => store emptied path
    | none => pure ()
    return emptied
  | .error _ => return files

/-- The files and the network as the arguments need them, with the socket if one could be bound. -/
def survey (words : List String) : IO (Files × Network × Option TCP.Socket.Server) := do
  match Arguments.parse words with
  | .error _ => return (← surroundings, .offline, none)
  | .ok a =>
    let files ← observe (← prepareLog a) a.config.toList
    match configure a files with
    | .error _ => return (files, .offline, none)
    | .ok c =>
      let files ← observe files c.portFile.toList
      let (bound, socket) ← match ← listen c.host c.port with
        | .ok (socket, endpoint) => pure (.ok endpoint, some socket)
        | .error fault => pure (.error fault, none)
      return (files, { Network.loopback with bind := fun _ _ => bound }, socket)

/-- Run the command. -/
def run (words : List String) : IO UInt32 := do
  let (files, net, socket) ← survey words
  let seed := (← IO.getRandomBytes 8).data.foldl (fun n b => 256 * n + b.toNat) 0
  let l := launch (.sound net) (SessionId.numbered seed) (← clock) files words
  match l, socket with
  | .serves s, some socket =>
    let signals ← [Signal.sigint, .sigterm].mapM fun signal => do
      (← Signal.Waiter.mk signal false).wait
    match s.server?.bind Server.portFile with
    | some path => store s.host.files path
    | none => pure ()
    IO.print l.output
    (← IO.getStdout).flush
    writeLog s 0
    let (result, s, stopped, peers) ← serve socket signals s []
    let code ← match result with
      | .ok () => pure l.exitCode
      | .error o => do
        IO.eprintln o.message
        pure panicCode
    finish s stopped peers
    return code
  | _, _ =>
    IO.print l.output
    IO.eprint l.errorOutput
    return l.exitCode

end HostedRepl.CommandLine

/-- Run the command with the arguments of the process. -/
def main (args : List String) : IO UInt32 := HostedRepl.CommandLine.run args
