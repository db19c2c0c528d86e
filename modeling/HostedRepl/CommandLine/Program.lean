/-
The command: a host of its own that runs one server.

The log is set up before the configuration is read, so that a log that cannot be written is told
first. A command that does not come to serve says why on the error output.

* `Failure`: why the command ends before it serves, with its message.
* `Serving`: the command while it serves.
* `launch`: how a list of arguments turns out.
* `Serving.stop`: the host has been asked to end.
* `Serving.onSignal`: the command gets a signal.
* `Serving.round`: the command runs its ticks, which may panic.
-/
import HostedRepl.CommandLine.Arguments
import HostedRepl.CommandLine.Log
import HostedRepl.CommandLine.Signal
import HostedRepl.Config.File
import HostedRepl.Server.Lifecycle

namespace HostedRepl.CommandLine

open Bridge (Evaluator)

/-- Why the command ends before it serves. -/
inductive Failure where
  | argument (fault : ArgumentFault)
  | filter (fault : FilterFault)
  | logFile (path : String) (fault : FileFault)
  | configFile (path : String) (fault : FileFault)
  | configText
  | config (fault : ConfigFault)
  | start (e : StartError)

/-- The wording of a failure. -/
def Failure.message : Failure → String
  | argument fault => fault.message
  | filter fault => "Failed to initialise logging: invalid log filter: " ++ fault.message
  | logFile path fault =>
    "Failed to initialise logging: could not open log file " ++ path ++ ": " ++ fault.message
  | configFile path fault => "could not read " ++ path ++ ": " ++ fault.message
  | configText => "malformed config JSON"
  | config fault => fault.message
  | start e => "Failed to start nREPL server: " ++ e.message

/-- The command while it serves: its host with the one server, of owner 0, and its log. -/
structure Serving where
  host : Host Lisp.Runtime
  log : Log

/-- The server of the command. -/
def Serving.server? (s : Serving) : Option (Server Lisp.Runtime) := s.host.server? 0

/-- Change the server of the command. -/
def Serving.onServer (s : Serving) (f : Server Lisp.Runtime → Server Lisp.Runtime) : Serving :=
  { s with host := s.host.onServer 0 f }

/-- Log an event. -/
def Serving.note (s : Serving) (e : Event) : Serving :=
  let (log, files) := s.log.note s.host.files e
  { s with host := { s.host with files }, log }

/-- How the command turns out. -/
inductive Launch where
  /-- It only shows the help text. -/
  | help
  | failed (f : Failure)
  /-- It panics as it starts its server. -/
  | panicked (o : Overflow)
  | serves (s : Serving)

/-- The log that is asked for; a log file is made or emptied. -/
def openLog (a : Arguments) (files : Files) (disk : Disk) : Except Failure (Log × Files) :=
  match LogFilter.parse (a.logLevel.getD defaultLevel) with
  | .error fault => .error (.filter fault)
  | .ok filter =>
    match a.logFile with
    | none => .ok (⟨filter, none, []⟩, files)
    | some path =>
      match files.write path [] disk with
      | (.ok (), files) => .ok (⟨filter, some path, []⟩, files)
      | (.error fault, _) => .error (.logFile path fault)

/-- The configuration in the file that is asked for. -/
def loadConfig (files : Files) : Option String → Except Failure ServerConfig
  | none => .ok .default
  | some path =>
    match files.readText path with
    | .error fault => .error (.configFile path fault)
    | .ok json =>
      match ServerConfig.ofJson? json with
      | some c => .ok c
      | none => .error .configText

/-- The configuration that is asked for: that of the file, with the arguments in place of it. -/
def configure (a : Arguments) (files : Files) : Except Failure ServerConfig := do
  let c := a.override (← loadConfig files a.config)
  match c.validate with
  | .ok () => return c
  | .error fault => throw (.config fault)

/-- The event of a server that has started. -/
def startedEvent (s : Server Lisp.Runtime) : Event where
  level := .info
  source := .server
  message := "nREPL server started on port " ++ toString s.endpoint.port ++ " on host " ++ s.host ++
    " - " ++ s.url
  fields := []

/-- Start the server of the command. -/
def Serving.start (sys : System) (source : Nat → SessionId) (now : Moment) (log : Log)
    (files : Files) (c : ServerConfig) : Launch :=
  match (Host.empty files).start sys source now 0 c .start with
  | (.error (.refused e), _) => .failed (.start e)
  | (.error (.panicked o), _) => .panicked o
  | (.ok (), host) =>
    let serving : Serving := ⟨host, log⟩
    .serves <| match serving.server? with
      | some s => serving.note (startedEvent s)
      | none => serving

/-- Set up the log, read the configuration and start the server. -/
def Serving.ofArguments (sys : System) (source : Nat → SessionId) (now : Moment) (files : Files)
    (a : Arguments) : Launch :=
  match openLog a files sys.disk with
  | .error f => .failed f
  | .ok (log, files) =>
    match configure a files with
    | .error f => .failed f
    | .ok c => start sys source now log files c

/-- How a list of arguments turns out. -/
def launch (sys : System) (source : Nat → SessionId) (now : Moment) (files : Files)
    (words : List String) : Launch :=
  match Arguments.parse words with
  | .error .help => .help
  | .error (.fault f) => .failed (.argument f)
  | .ok a => Serving.ofArguments sys source now files a

/-- The standard output of a command up to where it serves or has ended. An unknown argument shows
the help text. -/
def Launch.output : Launch → String
  | help => usage
  | failed (.argument (.unknown _)) => usage
  | failed _ | panicked _ => ""
  | serves s =>
    match s.server? with
    | none => ""
    | some server =>
      let written := match server.portFile with
        | some path => "Port written to " ++ path ++ "\n"
        | none => ""
      "nREPL server listening on " ++ server.url ++ "\n" ++ written ++ "Press Ctrl+C to stop.\n"

/-- The error output of a command that has ended. -/
def Launch.errorOutput : Launch → String
  | failed f => f.message ++ "\n"
  | panicked o => o.message ++ "\n"
  | _ => ""

/-- The exit code of a command that panics. -/
def panicCode : UInt32 := 101

/-- The exit code of a command. -/
def Launch.exitCode : Launch → UInt32
  | failed _ => 1
  | panicked _ => panicCode
  | _ => 0

/-- The events while a server ends, in order. That it was ticked no more is worth one as well. -/
def stopEvents (cancelled closed sessions port : Nat) (ticked : Bool) : List Event :=
  [⟨.debug, .server, "cancelled queued nREPL work", [("cancelled", toString cancelled)]⟩,
    ⟨.debug, .server, "closed nREPL connections", [("closed", toString closed)]⟩] ++
  (if ticked then [] else [⟨.debug, .server, "nREPL tick was already unregistered", []⟩]) ++
  [⟨.debug, .listener, "nREPL accept loop stopped", []⟩,
    ⟨.debug, .server, "cleared nREPL sessions", [("sessions", toString sessions)]⟩,
    ⟨.info, .server, "nREPL server stopped", [("port", toString port)]⟩]

/-- The server is stopped and the log says so. -/
def Serving.shutDown (s : Serving) : Serving :=
  match s.server? with
  | none => s
  | some server =>
    let (settled, _, host) := s.host.shutdown 0
    let ticked := server.timer.all fun timer => (s.host.scheduler.unregister timer).1.succeeded
    let events := stopEvents settled.length server.connectionCount
      server.exchange.registry.sessions.length server.endpoint.port ticked
    events.foldl note ⟨host, s.log⟩

/-- The host ends as it has been asked to. -/
def Serving.stop (s : Serving) : Serving :=
  (s.note ⟨.info, .command, "shutdown requested", []⟩).shutDown

/-- The command gets a signal: what becomes of it, and its exit code. One that it does not wait for
breaks it off, so that it has no exit code, tells nothing more and leaves the port file behind. -/
def Serving.onSignal (s : Serving) : HostSignal → Serving × Option UInt32
  | .interrupt | .terminate => (s.stop, some 0)
  | .other => (s, none)

/-- Run the ticks that are due. If one panics the command ends: the server is stopped as it goes. -/
def Serving.round (s : Serving) (now : Moment) : Except Overflow Unit × Serving :=
  match Host.runDue .ofRuntime now s.host with
  | (.ok _, host) => (.ok (), { s with host })
  | (.error o, host) => (.error o, { s with host }.shutDown)

end HostedRepl.CommandLine
