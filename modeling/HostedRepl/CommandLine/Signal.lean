/-
Signals to the command.

Two signals ask the command to end: the one of a user at the terminal and the one of another
program. The command does not wait for any other signal, so that none of them ends it in order.

* `HostSignal`: a signal by what it means to the command.
* `HostSignal.ofText`: the signal of a name or number.
-/
import HostedRepl.Decimal.Reading

namespace HostedRepl.CommandLine

/-- A signal, by what it means to the command. -/
inductive HostSignal where
  /-- A user at the terminal asks the command to end. -/
  | interrupt
  /-- Another program asks the command to end. -/
  | terminate
  /-- The command does not wait for it. -/
  | other
  deriving DecidableEq, Repr

namespace HostSignal

/-- The signal of a number. -/
def ofNumber : Nat → HostSignal
  | 2 => interrupt
  | 15 => terminate
  | _ => other

/-- The signal of a name in upper case. -/
def ofName : List Char → HostSignal
  | ['I', 'N', 'T'] => interrupt
  | ['T', 'E', 'R', 'M'] => terminate
  | _ => other

/-- The signal of a number, or of a name in either case, which may begin with `SIG`. -/
def ofText (text : String) : HostSignal :=
  match Decimal.parseNat? text.toList with
  | some n => ofNumber n
  | none =>
    match text.toList.map Char.toUpper with
    | 'S' :: 'I' :: 'G' :: name => ofName name
    | name => ofName name

end HostSignal

end HostedRepl.CommandLine
