/-
The configuration of a server.

* `ServerConfig`: the settings and their defaults.
* `ServerConfig.validate`: a configuration a server can start with.
* `durationOfSeconds?`, `ServerConfig.tickInterval`: the tick interval as a span of time.
* `intervalLayout`: how an interval is written in a message.
-/
import HostedRepl.Decimal.Layout
import HostedRepl.Duration
import HostedRepl.Text.Blank
import HostedRepl.Text.Quoted

namespace HostedRepl

/-- The settings of a server. -/
structure ServerConfig where
  /-- The interface to listen on. -/
  host : String
  /-- The port to listen on; 0 leaves the choice to the system. -/
  port : UInt16
  /-- Where the port is written for editors to find. -/
  portFile : Option String
  /-- The time between ticks, in seconds. -/
  interval : Float

/-- What is wrong with a configuration. -/
inductive ConfigFault where
  | host (given : String)
  | interval (seconds : Float)

/-- Numbers in messages never have an exponent, and whole ones no point. -/
def intervalLayout : Decimal.Layout where
  positional := none
  whole := ""
  plus := ""
  tiesUp := true
  nan := "NaN"
  infinity := fun negative => if negative then "-inf" else "inf"

/-- The wording of a fault. -/
def ConfigFault.message : ConfigFault → String
  | .host given =>
    "host must be non-empty and must not contain '\"' (got " ++ Text.quoted given ++ ")"
  | .interval seconds =>
    "tick interval must be a positive number of seconds (got " ++ intervalLayout.render seconds ++
      ")"

/-- The exact number of seconds rounded to whole nanoseconds, a half to even. Spans below zero and
from `2 ^ 64` seconds on cannot be told. -/
def durationOfSeconds? (seconds : Float) : Option Duration :=
  match Decimal.Double.ofFloat seconds with
  | .finite negative m e =>
    let num := m * Nat.pow 2 e.toNat
    let den := Nat.pow 2 (-e).toNat
    if negative && m != 0 || den * Nat.pow 2 64 ≤ num then none
    else some ⟨Decimal.roundHalfEven (num * 1000000000) den⟩
  | _ => none

namespace ServerConfig

/-- The settings in place of those that are not given. -/
def default : ServerConfig := ⟨"127.0.0.1", 0, some ".nrepl-port", 0.1⟩

/-- The first thing wrong with a configuration. -/
def validate (c : ServerConfig) : Except ConfigFault Unit :=
  if Text.isBlankText c.host || c.host.contains '"' then .error (.host c.host)
  else if !c.interval.isFinite || c.interval ≤ 0.0 then .error (.interval c.interval)
  else .ok ()

/-- The time between ticks; a tenth of a second if the setting is no span of time. -/
def tickInterval (c : ServerConfig) : Duration :=
  (durationOfSeconds? c.interval).getD (.ofMilliseconds 100)

end ServerConfig

end HostedRepl
