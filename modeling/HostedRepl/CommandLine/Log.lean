/-
What the command logs.

* `defaultLevel`: the filter of a log for which none is given.
* `Log`: the events that have passed a filter, and where their lines go.
* `Log.note`: one more event.
-/
import HostedRepl.CommandLine.Filter
import HostedRepl.Files

namespace HostedRepl.CommandLine

/-- The level in place of one that is not given. -/
def defaultLevel : String := "info"

/-- A log: what passes, where it goes, and what has passed so far. -/
structure Log where
  filter : LogFilter
  /-- The file the log goes to, or `none` for the error output. -/
  file : Option String
  /-- The events that have passed, oldest first. -/
  events : List Event

namespace Log

/-- The text of a log. -/
def text (l : Log) : String := String.join (l.events.map Event.line)

/-- The files after one more line, which goes to the file of the log behind the lines before. -/
def writeLine (l : Log) (files : Files) (line : String) : Files :=
  match l.file with
  | some path =>
    files.overwrite (files.place path) l.text.utf8ByteSize (Wire.Bytes.ofText line)
  | none => files

/-- Log an event, if it passes. -/
def note (l : Log) (files : Files) (e : Event) : Log × Files :=
  if l.filter.allows e then
    ({ l with events := l.events ++ [e] }, l.writeLine files e.line)
  else (l, files)

end Log

end HostedRepl.CommandLine
