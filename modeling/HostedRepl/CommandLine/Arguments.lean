/-
The arguments of the command.

They are read from left to right, and of a flag given twice the later one counts. The first thing
wrong, or the first request for help, ends the reading.

* `Flag`, `Arguments`: the flags, and what has been asked for with them.
* `ArgumentFault`: what can be wrong, with its message.
* `Arguments.parse`: the arguments of a list of words.
* `usage`: the help text.
-/
import HostedRepl.Config.Basic
import HostedRepl.Decimal.Reading

namespace HostedRepl.CommandLine

/-- The flags that take a value. -/
inductive Flag where
  | config
  | host
  | port
  | portFile
  | interval
  | logLevel
  | logFile
  deriving DecidableEq, Repr

namespace Flag

/-- The flag as it is given. -/
def name : Flag → String
  | config => "--config"
  | host => "--host"
  | port => "--port"
  | portFile => "--port-file"
  | interval => "--interval"
  | logLevel => "--log-level"
  | logFile => "--log-file"

/-- What the flag needs. -/
def needs : Flag → String
  | config | portFile | logFile => "a path"
  | host | logLevel => "a value"
  | port => "a valid port number"
  | interval => "a number of seconds"

/-- All flags that take a value. -/
def all : List Flag := [config, host, port, portFile, interval, logLevel, logFile]

/-- The flag of a word. -/
def ofName? (word : String) : Option Flag := all.find? fun f => f.name == word

end Flag

/-- What can be wrong with the arguments. -/
inductive ArgumentFault where
  /-- The value of a flag is missing or cannot be read. -/
  | value (flag : Flag)
  | unknown (word : String)
  deriving DecidableEq, Repr

/-- The wording of a fault. -/
def ArgumentFault.message : ArgumentFault → String
  | value flag => flag.name ++ " requires " ++ flag.needs
  | unknown word => "Unknown argument: " ++ word

/-- What ends the reading of arguments early. -/
inductive Interruption where
  | help
  | fault (f : ArgumentFault)
  deriving DecidableEq, Repr

/-- What has been asked for; what has not is left to the configuration or its defaults. -/
structure Arguments where
  config : Option String
  host : Option String
  port : Option UInt16
  /-- The port file, or `some none` if there is to be none. -/
  portFile : Option (Option String)
  interval : Option Float
  logLevel : Option String
  logFile : Option String

namespace Arguments

/-- Nothing has been asked for. -/
def empty : Arguments := ⟨none, none, none, none, none, none, none⟩

/-- A port number: digits after an optional plus sign, below `2 ^ 16`. -/
def port? (word : String) : Option UInt16 := do
  let digits := match word.toList with
    | '+' :: cs => cs
    | cs => cs
  let n ← Decimal.parseNat? digits
  if n < Nat.pow 2 16 then some n.toUInt16 else none

/-- Give a flag a value. -/
def set? (a : Arguments) (flag : Flag) (word : String) : Option Arguments :=
  match flag with
  | .config => some { a with config := some word }
  | .host => some { a with host := some word }
  | .port => (port? word).map fun port => { a with port := some port }
  | .portFile => some { a with portFile := some (some word) }
  | .interval => (Decimal.parseFloat? word.toList).map fun x => { a with interval := some x }
  | .logLevel => some { a with logLevel := some word }
  | .logFile => some { a with logFile := some word }

/-- Read the words after those that have given `a`. -/
def parseFrom (a : Arguments) : List String → Except Interruption Arguments
  | [] => .ok a
  | word :: words =>
    match Flag.ofName? word with
    | some flag =>
      match words with
      | [] => .error (.fault (.value flag))
      | value :: words =>
        match a.set? flag value with
        | some a => parseFrom a words
        | none => .error (.fault (.value flag))
    | none =>
      if word = "--no-port-file" then parseFrom { a with portFile := some none } words
      else if word = "--help" ∨ word = "-h" then .error .help
      else .error (.fault (.unknown word))

/-- The arguments of a list of words. -/
def parse (words : List String) : Except Interruption Arguments := empty.parseFrom words

/-- A configuration with what has been asked for in place of its own settings. -/
def override (a : Arguments) (c : ServerConfig) : ServerConfig where
  host := a.host.getD c.host
  port := a.port.getD c.port
  portFile := a.portFile.getD c.portFile
  interval := a.interval.getD c.interval

end Arguments

/-- The help text. -/
def usage : String :=
  "\n".intercalate
    ["Usage: tickrepl [OPTIONS]",
      "",
      "Options:",
      "  --config <FILE>         JSON config file; flags below override it",
      "  --host <HOST>           Interface to bind (default: 127.0.0.1)",
      "  --port <PORT>           Listen port, 0 for any free port (default: 0)",
      "  --port-file <FILE>      Port file path (default: .nrepl-port)",
      "  --no-port-file          Do not write a port file",
      "  --interval <SECONDS>    Tick interval (default: 0.1)",
      "  --log-level <FILTER>    Log filter when RUST_LOG is unset (default: info)",
      "  --log-file <FILE>       Log to a file instead of stderr",
      "  --help, -h              Show this help",
      ""]

end HostedRepl.CommandLine
