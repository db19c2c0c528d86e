/-
Whether a pattern can be compiled.

* `PatternFault`: why a pattern cannot be compiled.
* `Scan`: how far a pattern has been read.
* `Scan.read`: a pattern is read to its end.
* `Pattern.fault?`: the fault of a pattern, if it has one.
-/
import HostedRepl.Text.Pattern.Brackets

namespace HostedRepl.Text

/-- Why a pattern cannot be compiled. -/
inductive PatternFault where
  | malformed
  /-- It asks for the end of a word in Unicode. -/
  | wordBoundary
  deriving DecidableEq, Repr

/-- The wording of a fault. -/
def PatternFault.message : PatternFault → String
  | malformed => "error building NFA"
  | wordBoundary =>
    "unsupported regex feature for DFAs: cannot build DFAs for regexes with Unicode word " ++
      "boundaries; switch to ASCII word boundaries, or heuristically enable Unicode word " ++
      "boundaries or use a different regex engine"

namespace Pattern

/-- What stands around an open group: the flags, the alternatives and the elements before it. -/
structure Group where
  flags : Flags
  branches : Bundle
  elements : Bundle
  deriving DecidableEq, Repr

/-- How far a pattern has been read. -/
structure Scan where
  flags : Flags
  /-- The alternatives before the one that is read, in the group that is read. -/
  branches : Bundle
  elements : Bundle
  /-- The height of the last element, if it can be repeated. -/
  last : Option Nat
  /-- The open groups, the innermost one first. -/
  outer : List Group
  names : List (List Char)
  /-- The end of a word has been asked for in Unicode. -/
  boundary : Bool
  deriving DecidableEq, Repr

namespace Scan

/-- Nothing is read yet. -/
def start : Scan := ⟨⟨true, false, false⟩, .empty, .empty, none, [], [], false⟩

/-- How high the group is nested that is read. -/
def height (s : Scan) : Nat :=
  if s.branches.count = 0 then s.elements.height else (s.branches.add s.elements.height).height

/-- One more element, of a height. -/
def element (s : Scan) (height : Nat) : Scan :=
  { s with elements := s.elements.add height, last := some height }

/-- The last element is repeated. -/
def repeated? (s : Scan) : Option Scan :=
  s.last.map fun height =>
    { s with
      elements := { s.elements with highest := max s.elements.highest (height + 1) }
      last := some (height + 1) }

/-- The next alternative begins. -/
def alternative (s : Scan) : Scan :=
  { s with branches := s.branches.add s.elements.height, elements := .empty, last := none }

/-- A group begins. -/
def openGroup (s : Scan) : Scan :=
  { s with
    branches := .empty
    elements := .empty
    last := none
    outer := ⟨s.flags, s.branches, s.elements⟩ :: s.outer }

/-- The innermost group ends. -/
def close? (s : Scan) : Option Scan :=
  match s.outer with
  | [] => none
  | g :: outer =>
    some <|
      { s with flags := g.flags, branches := g.branches, elements := g.elements, outer }.element
        (s.height + 1)

/-! ### Groups -/

/-- A character of a name, which a letter or an underscore begins. -/
def isNameChar (first : Bool) (c : Char) : Bool :=
  if first then c == '_' || isAlphabetic c
  else ['_', '.', '[', ']'].contains c || isAlphanumeric c

/-- The name of a group, which no other group has. -/
def isFreshName (s : Scan) : List Char → Bool
  | [] => false
  | c :: cs =>
    isNameChar true c && cs.all (isNameChar false) && !s.names.contains (c :: cs)

/-- Read the name of a group. -/
def named (s : Scan) (cs : List Char) : Option (Scan × List Char) :=
  let name := cs.takeWhile (· != '>')
  match cs.dropWhile (· != '>') with
  | _ :: rest =>
    if s.isFreshName name then some ({ s.openGroup with names := name :: s.names }, rest) else none
  | [] => none

/-- The letters at the begin of a group: no two are equal, and no hyphen is the last. -/
def areFlags (letters : List Char) : Bool :=
  letters.all (fun c => c == '-' || flagLetters.contains c) &&
    letters.eraseDups.length == letters.length && letters.getLast? != some '-'

/-- Read the letters of a group. Without a colon after them they hold for what follows in the group
around, and there has to be one at least. -/
def lettered (s : Scan) (cs : List Char) : Option (Scan × List Char) :=
  let isLetter (c : Char) : Bool := c != ':' && c != ')'
  let letters := cs.takeWhile isLetter
  let flags := s.flags.change letters
  match cs.dropWhile isLetter with
  | ':' :: rest => if areFlags letters then some ({ s.openGroup with flags }, rest) else none
  | ')' :: rest =>
    if areFlags letters && !letters.isEmpty then
      some ({ s with flags, elements := s.elements.add 0, last := none }, rest)
    else none
  | _ => none

/-- Read the begin of a group after its parenthesis. -/
def group (s : Scan) (cs : List Char) : Option (Scan × List Char) :=
  match s.flags.skip cs with
  | '?' :: 'P' :: '<' :: rest => s.named rest
  | '?' :: '<' :: rest => s.named rest
  | '?' :: rest => s.lettered rest
  | rest => some (s.openGroup, rest)

/-! ### The whole pattern -/

/-- Read a primitive. -/
def primitive (s : Scan) (c : Char) (cs : List Char) : Option (Scan × List Char) := do
  let (p, rest) ← s.flags.primitive? c cs
  if s.flags.admits p then
    let boundary := s.boundary || s.flags.unicode && p == .boundary
    some ({ s.element 0 with boundary }, rest)
  else none

/-- Read what begins with a character other than a parenthesis or bracket that opens. A repetition
may be followed by a question mark of its own. A brace would count repetitions, but has no end in a
pattern between braces. -/
def step (s : Scan) (c : Char) (cs : List Char) : Option (Scan × List Char) :=
  match c with
  | ')' => s.close?.map fun s => (s, cs)
  | '|' => some (s.alternative, cs)
  | '{' => none
  | '?' | '*' | '+' =>
    s.repeated?.map fun s => (s, if cs.head? == some '?' then cs.tail else cs)
  | '^' | '$' => some (s.element 0, cs)
  | '.' => if s.flags.unicode then some (s.element 0, cs) else none
  | c => s.primitive c cs

/-- Read a pattern to its end, in at most `fuel` steps. -/
def read (fuel : Nat) (s : Scan) (cs : List Char) : Option Scan :=
  match fuel, s.flags.skip cs with
  | _, [] => some s
  | 0, _ => none
  | fuel + 1, c :: cs =>
    let next :=
      if c == '(' then s.group cs
      else if c == '[' then
        (s.flags.readClass fuel (.start []) cs).map fun (height, rest) => (s.element height, rest)
      else s.step c cs
    match next with
    | none => none
    | some (s, rest) => read fuel s rest

end Scan

/-- How high a pattern may be nested. -/
def heightLimit : Nat := 250

/-- The fault of a pattern, if it has one. Each step of the scan takes a character at least. -/
def fault? (pattern : String) : Option PatternFault :=
  match Scan.start.read (pattern.length + 1) pattern.toList with
  | none => some .malformed
  | some s =>
    if !s.outer.isEmpty || heightLimit < s.height then some .malformed
    else if s.boundary then some .wordBoundary
    else none

end Pattern

end HostedRepl.Text
