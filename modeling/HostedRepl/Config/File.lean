/-
Configurations as JSON texts.

A configuration is an object with any of the four known keys, or an array of the settings in order;
what is not given keeps its default. Unknown keys are skipped.

* `Draft`: the settings given so far. A setting is given at most once.
* `ServerConfig.ofJson?`: the configuration of a text.
* `ServerConfig.toJson`: the text of a configuration.
-/
import HostedRepl.Config.Basic
import HostedRepl.Config.Json
import HostedRepl.Path

namespace HostedRepl

/-- The settings given so far. -/
structure Draft where
  host : Option String
  port : Option UInt16
  portFile : Option (Option String)
  interval : Option Float

/-- The names of the settings. -/
inductive Setting where
  | host
  | port
  | portFile
  | interval
  deriving DecidableEq, Repr

namespace Setting

/-- The key of a setting. -/
def key : Setting → String
  | host => "host"
  | port => "port"
  | portFile => "port_file_path"
  | interval => "tick_interval_seconds"

/-- The settings in order. -/
def all : List Setting := [host, port, portFile, interval]

/-- The setting of a key. -/
def ofKey? (key : String) : Option Setting := all.find? fun s => s.key == key

end Setting

namespace Draft

/-- No setting is given. -/
def empty : Draft := ⟨none, none, none, none⟩

/-- The setting has been given. -/
def has (d : Draft) : Setting → Bool
  | .host => d.host.isSome
  | .port => d.port.isSome
  | .portFile => d.portFile.isSome
  | .interval => d.interval.isSome

/-- The configuration with these settings. -/
def complete (d : Draft) : ServerConfig where
  host := d.host.getD ServerConfig.default.host
  port := d.port.getD ServerConfig.default.port
  portFile := d.portFile.getD ServerConfig.default.portFile
  interval := d.interval.getD ServerConfig.default.interval

/-- A string value. -/
def string? (cs : List Char) : Option (String × List Char) :=
  match cs with
  | '"' :: rest => Json.string? rest
  | _ => none

/-- A port: a whole number of 16 bits. -/
def port? (cs : List Char) : Option (UInt16 × List Char) := do
  let (l, rest) ← Json.literal? cs
  match ← l.number? with
  | .whole n => if 0 ≤ n ∧ n < 65536 then some (n.toNat.toUInt16, rest) else none
  | .float _ => none

/-- A path, or `null` for none. -/
def path? (cs : List Char) : Option (Option String × List Char) :=
  match cs with
  | 'n' :: _ => (Json.afterWord? "null".toList cs).map fun rest => (none, rest)
  | _ => (string? cs).map fun (path, rest) => (some path, rest)

/-- A number of seconds. -/
def seconds? (cs : List Char) : Option (Float × List Char) := do
  let (l, rest) ← Json.literal? cs
  match ← l.number? with
  | .whole n => some (Float.ofInt n, rest)
  | .float x => some (x, rest)

/-- Read the value of a setting. -/
def read? (d : Draft) (s : Setting) (cs : List Char) : Option (Draft × List Char) :=
  let cs := Json.skipBlanks cs
  match s with
  | .host => (string? cs).map fun (host, rest) => ({ d with host }, rest)
  | .port => (port? cs).map fun (port, rest) => ({ d with port }, rest)
  | .portFile =>
    (path? cs).map fun (portFile, rest) => ({ d with portFile := some portFile }, rest)
  | .interval => (seconds? cs).map fun (interval, rest) => ({ d with interval }, rest)

/-- Read the value of a key. -/
def readKey? (d : Draft) (key : String) (cs : List Char) : Option (Draft × List Char) :=
  match Setting.ofKey? key with
  | some s => if d.has s then none else d.read? s cs
  | none => (Json.skip? cs).map fun rest => (d, rest)

/-- The members of an object after its bracket or a comma. Every member takes characters, so
`steps` bounds them by the length of the text. -/
def members? : (steps : Nat) → Draft → List Char → Option (Draft × List Char)
  | 0, _, _ => none
  | steps + 1, d, cs =>
    match (string? (Json.skipBlanks cs)).map fun (key, rest) => (key, Json.skipBlanks rest) with
    | some (key, ':' :: rest) =>
      match (d.readKey? key rest).map fun (d, rest) => (d, Json.skipBlanks rest) with
      | some (d, '}' :: rest) => some (d, rest)
      | some (d, ',' :: rest) => members? steps d rest
      | _ => none
    | _ => none

/-- The items of an array after its bracket or a comma. -/
def items? (d : Draft) : List Setting → List Char → Option (Draft × List Char)
  | [], _ => none
  | s :: ss, cs =>
    match (d.read? s cs).map fun (d, rest) => (d, Json.skipBlanks rest) with
    | some (d, ']' :: rest) => some (d, rest)
    | some (d, ',' :: rest) => items? d ss rest
    | _ => none

/-- The settings of an object or an array. -/
def ofChars? (cs : List Char) : Option (Draft × List Char) :=
  match Json.skipBlanks cs with
  | '{' :: rest =>
    match Json.skipBlanks rest with
    | '}' :: rest => some (empty, rest)
    | rest => members? (rest.length + 1) empty rest
  | '[' :: rest =>
    match Json.skipBlanks rest with
    | ']' :: rest => some (empty, rest)
    | rest => items? empty Setting.all rest
  | _ => none

end Draft

namespace ServerConfig

/-- The configuration of a JSON text. -/
def ofJson? (json : String) : Option ServerConfig := do
  let (d, rest) ← Draft.ofChars? json.toList
  if (Json.skipBlanks rest).isEmpty then some d.complete else none

/-- In JSON a number always has a point or an exponent, from `1e16` on and below `1e-5` the latter;
one that is not finite is `null`. -/
def jsonLayout : Decimal.Layout where
  positional := some (-5, 16)
  whole := ".0"
  plus := "+"
  tiesUp := false
  nan := "null"
  infinity := fun _ => "null"

/-- The JSON text of a configuration. -/
def toJson (c : ServerConfig) : String :=
  let portFile := match c.portFile with
    | some path => Json.escaped path
    | none => "null"
  "\x7b\"host\":" ++ Json.escaped c.host ++ ",\"port\":" ++ toString c.port.toNat ++
    ",\"port_file_path\":" ++ portFile ++ ",\"tick_interval_seconds\":" ++
    jsonLayout.render c.interval ++ "\x7d"

/-- Two configurations have the same settings. -/
def same (a b : ServerConfig) : Bool :=
  let samePath := match a.portFile, b.portFile with
    | some p, some q => Path.same p q
    | none, none => true
    | _, _ => false
  a.host == b.host && a.port == b.port && samePath && a.interval == b.interval

end ServerConfig

end HostedRepl
