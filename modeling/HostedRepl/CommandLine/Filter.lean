/-
Filters of the log.

A filter is a list of directives divided by commas. A directive lets the events of some sources
through up to a level. It may ask for more: for a span of work around the event, in brackets, and
in braces for a field that the event tells, with or without a value, which is a number or a
pattern. For an event the closest of the directives that cover it decides.

* `Directive`, `LogFilter`: what is let through.
* `Directive.parse`, `LogFilter.parse`: the directive and the filter of a text, or `FilterFault`.
* `LogFilter.allows`: an event passes.
-/
import HostedRepl.CommandLine.Event
import HostedRepl.Decimal.Reading
import HostedRepl.Text.Alphanumeric
import HostedRepl.Text.Blank
import HostedRepl.Text.Pattern.Compile

namespace HostedRepl.CommandLine

/-- A field that has to be told, and the pattern its value has to match. -/
structure FieldTest where
  name : String
  value : Option String
  deriving DecidableEq, Repr

/-- One rule of a filter. -/
structure Directive where
  /-- The start of the names of the sources; `none` stands for all of them. -/
  source : Option String
  /-- The name of the span around an event. -/
  span : Option String
  field : Option FieldTest
  /-- The rank of the last level let through. -/
  limit : Nat
  deriving DecidableEq, Repr

/-- What is wrong with the text of a filter. -/
inductive FilterFault where
  | directive
  | level
  | field (fault : Text.PatternFault)
  deriving DecidableEq, Repr

/-- The wording of a fault. -/
def FilterFault.message : FilterFault → String
  | directive => "invalid filter directive"
  | level =>
    "error parsing level filter: expected one of \"off\", \"error\", \"warn\", \"info\", " ++
      "\"debug\", \"trace\", or a number 0-5"
  | field fault => "invalid field filter: " ++ fault.message

/-- The directives of a filter. -/
abbrev LogFilter := List Directive

/-- The rank of a level by its name in either case, or by its number. -/
def limit? (text : String) : Option Nat :=
  let byName := List.lookup (text.map Char.toLower)
    [("off", 0), ("error", 1), ("warn", 2), ("info", 3), ("debug", 4), ("trace", 5)]
  let digits := match text.toList with
    | '+' :: ds => ds
    | ds => ds
  byName.or ((Decimal.parseNat? digits).filter (· ≤ 5))

namespace Directive

/-! ### Texts of directives -/

/-- What a directive lets through that names no level. -/
def everything : Nat := 5

/-- Where the scan of a directive stands. Positions count bytes. -/
inductive Scan where
  | start
  /-- In a level or in the name of a source. -/
  | name
  | span (start : Nat)
  | field (start : Nat)
  | afterField
  | afterSpan
  | level (start : Nat)
  deriving DecidableEq, Repr

/-- The text between two positions, if both are between characters. -/
def cut (text : ByteArray) (start stop : Nat) : Except FilterFault String :=
  match String.fromUTF8? (text.extract start stop) with
  | some part => .ok part
  | none => .error .directive

/-- Why a text is no value of a field: it is neither a number nor a pattern. -/
def valueFault? (value : String) : Option Text.PatternFault :=
  if (Decimal.parseFloat? value.toList).isSome then none else Text.Pattern.fault? value

/-- The test in braces: a name, and the value after an equals sign. -/
def parseField (text : String) : Except FilterFault FieldTest :=
  match text.splitOn "=" with
  | name :: rest =>
    if text = "" then .error .directive
    else
      match rest.head?.bind valueFault? with
      | some fault => .error (.field fault)
      | none => .ok ⟨name, rest.head?⟩
  | [] => .error .directive

/-- The limit after the equals sign; nothing there lets everything through. -/
def parseLimit (text : String) : Except FilterFault Nat :=
  if text = "" then .ok everything
  else
    match limit? text with
    | some n => .ok n
    | none => .error .level

/-- A character a directive may begin with, unless it begins with a bracket. -/
def mayBegin (c : Char) : Bool := Text.isAlphanumeric c || c == '-' || c == ':' || c == '_'

/-- Take one character, at a position, with what the directive holds so far. -/
def scanChar (text : ByteArray) (d : Directive) (stage : Scan) (pos : Nat) (c : Char) :
    Except FilterFault (Directive × Scan) :=
  match stage, c with
  | .start, '[' => .ok (d, .span (pos + 1))
  | .start, c => if mayBegin c then .ok (d, .name) else .error .directive
  | .name, '=' => do return ({ d with source := some (← cut text 0 pos) }, .level (pos + 1))
  | .name, '[' => do return ({ d with source := some (← cut text 0 pos) }, .span (pos + 1))
  | .span start, ']' => do return ({ d with span := some (← cut text start pos) }, .afterSpan)
  | .span start, '{' => do
    let name ← cut text start pos
    return ({ d with span := if name = "" then none else some name }, .field (pos + 1))
  | .field start, '}' => do
    return ({ d with field := some (← parseField (← cut text start pos)) }, .afterField)
  | .afterField, ']' => .ok (d, .afterSpan)
  | .afterSpan, '=' => .ok (d, .level (pos + 1))
  | .afterField, _ => .error .directive
  | .afterSpan, _ => .error .directive
  | s, _ => .ok (d, s)

/-- Take characters, the first one at a position. -/
def scan (text : ByteArray) (d : Directive) (stage : Scan) (pos : Nat) :
    List Char → Except FilterFault (Directive × Scan)
  | [] => .ok (d, stage)
  | c :: cs => do
    let (d, stage) ← scanChar text d stage pos c
    scan text d stage (pos + c.utf8Size) cs

/-- The directive when all characters are taken. A single name is a level if it can be one. -/
def finish (text : ByteArray) (d : Directive) : Scan → Except FilterFault Directive
  | .name => do
    let name ← cut text 0 text.size
    match limit? name with
    | some limit => return { d with limit }
    | none => return { d with source := some name }
  | .level start => do return { d with limit := ← parseLimit (← cut text start text.size) }
  | .afterSpan => .ok d
  | _ => .error .directive

/-- Blank characters around a text removed. -/
def trim (cs : List Char) : List Char :=
  ((cs.dropWhile Text.isBlank).reverse.dropWhile Text.isBlank).reverse

/-- A directive from its text. Blanks around it are passed over by the scan alone: positions count
from the first character that is not blank, while the parts are cut from the whole text. -/
def parse (text : String) : Except FilterFault Directive := do
  let bytes := text.toUTF8
  let (d, stage) ← scan bytes ⟨none, none, none, everything⟩ .start 0 (trim text.toList)
  finish bytes d stage

/-! ### Events -/

/-- Whether the directive covers an event can be told from the event alone: it asks for no span and
no value. -/
def isStatic (d : Directive) : Bool := d.span.isNone && d.field.all fun f => f.value.isNone

/-- The directive is about an event. The work of this program is not divided into spans, so that
only static directives are. -/
def covers (d : Directive) (e : Event) : Bool :=
  d.isStatic && (d.source.all fun start => e.source.name.startsWith start) &&
    d.field.all fun f => e.names.contains f.name

/-- How closely a directive names its sources. -/
def weight (d : Directive) : Nat :=
  match d.source with
  | some start => start.utf8ByteSize + 1
  | none => 0

/-- The directive is less close than another one: it names its sources less closely, or equally so
and comes before it by its field, where no field comes first. -/
def isLessClose (d b : Directive) : Bool :=
  d.weight < b.weight ||
    d.weight == b.weight &&
      match d.field, b.field with
      | none, some _ => true
      | some f, some g => f.name < g.name
      | _, none => false

end Directive

namespace LogFilter

/-- The filter of a text. Without directives only errors pass. -/
def parse (text : String) : Except FilterFault LogFilter := do
  let parts := (text.splitOn ",").filter fun part => part != ""
  let ds ← parts.mapM Directive.parse
  return if ds.isEmpty then [⟨none, none, none, 1⟩] else ds

/-- The directive that decides about an event: the closest one that covers it, and of equally close
ones the last. -/
def deciding? (f : LogFilter) (e : Event) : Option Directive :=
  (f.filter fun d => d.covers e).foldl
    (fun best d =>
      match best with
      | some b => if d.isLessClose b then best else some d
      | none => some d)
    none

/-- An event passes the filter. -/
def allows (f : LogFilter) (e : Event) : Bool :=
  match f.deciding? e with
  | some d => e.level.rank ≤ d.limit
  | none => false

end LogFilter

end HostedRepl.CommandLine
