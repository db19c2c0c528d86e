/-
Moments in time.

The clock counts whole nanoseconds, and it has a last moment. So a span of time after a moment there
may be none, and a host that needs it panics.

* `Moment`: a moment, with the order of time.
* `Moment.after?`: the moment a span of time later, if there is one.
* `Overflow`: the panic of a host for want of a moment.
* `Hosted`: what a host does, which may panic.
-/
import HostedRepl.Duration

namespace HostedRepl

/-- The number of nanoseconds that the clock can tell: its seconds are counted in 63 bits. -/
def Moment.limit : Nat := Nat.pow 2 63 * Nat.pow 10 9

/-- A moment in time, in nanoseconds from the start of the clock. -/
structure Moment where
  nanoseconds : Nat
  told : nanoseconds < Moment.limit
  deriving DecidableEq, Repr

namespace Moment

instance : LE Moment := ⟨fun s t => s.nanoseconds ≤ t.nanoseconds⟩

instance : LT Moment := ⟨fun s t => s.nanoseconds < t.nanoseconds⟩

instance (s t : Moment) : Decidable (s ≤ t) :=
  inferInstanceAs (Decidable (s.nanoseconds ≤ t.nanoseconds))

instance (s t : Moment) : Decidable (s < t) :=
  inferInstanceAs (Decidable (s.nanoseconds < t.nanoseconds))

instance : Min Moment := ⟨fun s t => if s ≤ t then s else t⟩

/-- The last moment. -/
def last : Moment := ⟨limit - 1, by decide⟩

/-- The moment some nanoseconds after the start of the clock, or the last one if the clock does not
get there. -/
def ofNanoseconds (n : Nat) : Moment := if h : n < limit then ⟨n, h⟩ else last

instance (n : Nat) : OfNat Moment n := ⟨ofNanoseconds n⟩

/-- The moment a span of time after another one, if the clock gets there. -/
def after? (now : Moment) (span : Duration) : Option Moment :=
  if h : now.nanoseconds + span.nanoseconds < limit then some ⟨_, h⟩ else none

end Moment

/-- A moment is needed that there is not. -/
structure Overflow where
  deriving DecidableEq, Repr

/-- The wording of the panic. -/
def Overflow.message (_ : Overflow) : String := "overflow when adding duration to instant"

/-- What a host does: it changes a state and may panic. The state that it has come to by then
stays. -/
abbrev Hosted (S : Type) := ExceptT Overflow (StateM S)

end HostedRepl
