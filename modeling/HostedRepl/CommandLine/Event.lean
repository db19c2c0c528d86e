/-
Events that are worth a line in the log.

* `Level`, `Source`, `Event`: how much an event matters, where it comes from, and what it tells.
* `Event.line`: the line of an event.
-/

namespace HostedRepl.CommandLine

/-- How much an event matters; the later ones matter less. -/
inductive Level where
  | error
  | warn
  | info
  | debug
  | trace
  deriving DecidableEq, Repr

/-- The place of a level, from 1 on. -/
def Level.rank : Level → Nat
  | error => 1
  | warn => 2
  | info => 3
  | debug => 4
  | trace => 5

/-- The name of a level in a line of the log. -/
def Level.name : Level → String
  | error => "ERROR"
  | warn => "WARN"
  | info => "INFO"
  | debug => "DEBUG"
  | trace => "TRACE"

/-- The part of the program an event comes from. -/
inductive Source where
  | command
  | server
  | listener
  deriving DecidableEq, Repr

/-- A source as directives name it. -/
def Source.name : Source → String
  | command => "tickrepl"
  | server => "tickrepl_server::server"
  | listener => "tickrepl_server::listener"

/-- Something worth a line in the log. -/
structure Event where
  level : Level
  source : Source
  message : String
  /-- What it tells beside its message, by name. -/
  fields : List (String × String)
  deriving DecidableEq, Repr

/-- The names of what an event tells. -/
def Event.names (e : Event) : List String := "message" :: e.fields.map Prod.fst

/-- The line of an event. -/
def Event.line (e : Event) : String :=
  let fields := e.fields.map fun f => " " ++ f.1 ++ "=" ++ f.2
  e.level.name ++ " " ++ e.source.name ++ ": " ++ e.message ++ String.join fields ++ "\n"

end HostedRepl.CommandLine
