/-
Classes of characters in brackets.

A class holds characters, ranges, named classes and further classes; its parts may be joined by
operators, which are written as two equal characters.

* `ClassScan`: how far a class has been read.
* `ClassScan.step`: one item or operator of a class is read.
* `Flags.readClass`: a class is read to its end.
-/
import HostedRepl.Text.Pattern.Element

namespace HostedRepl.Text.Pattern

/-- How far a class has been read. -/
structure ClassScan where
  /-- Nothing but the bracket has been read. -/
  fresh : Bool
  /-- Nothing but hyphens has been read. -/
  atStart : Bool
  /-- The items since the last operator. -/
  items : Bundle
  /-- The height of what stands before the last operator. -/
  left : Option Nat
  /-- The items and the heights likewise of the classes around. -/
  outer : List (Bundle × Option Nat)
  deriving DecidableEq, Repr

/-- What has become of a class. -/
inductive ClassStep where
  | more (s : ClassScan)
  | done (height : Nat)
  deriving DecidableEq, Repr

namespace ClassScan

/-- A class begins. -/
def start (outer : List (Bundle × Option Nat)) : ClassScan := ⟨true, true, .empty, none, outer⟩

/-- One more item, of a height. -/
def item (s : ClassScan) (height : Nat) : ClassScan :=
  { s with fresh := false, atStart := false, items := s.items.add height }

/-- How high the operands are nested up to here. -/
def height (s : ClassScan) : Nat :=
  match s.left with
  | none => s.items.height
  | some left => max left s.items.height + 1

/-- An operator after the items. -/
def operator (s : ClassScan) : ClassScan :=
  { s with fresh := false, atStart := false, items := .empty, left := some s.height }

/-- The class ends and is an item of the one around it. -/
def close (s : ClassScan) : ClassStep :=
  match s.outer with
  | [] => .done (s.height + 1)
  | (items, left) :: outer => .more ⟨false, false, items.add (s.height + 1), left, outer⟩

/-- The names of classes that may stand between colons. -/
def classNames : List String :=
  ["alnum", "alpha", "ascii", "blank", "cntrl", "digit", "graph", "lower", "print", "punct",
    "space", "upper", "word", "xdigit"]

/-- The rest of a named class after its bracket: whether it is negated, and what follows. -/
def named? : List Char → Option (Bool × List Char)
  | ':' :: cs =>
    let negated := cs.head? == some '^'
    let cs := if negated then cs.tail else cs
    match cs.dropWhile (· != ':') with
    | ':' :: ']' :: rest =>
      if classNames.contains (String.ofList (cs.takeWhile (· != ':'))) then some (negated, rest)
      else none
    | _ => none
  | _ => none

/-- A primitive alone, or a range from one character to another. A hyphen before a bracket or
another hyphen makes no range. -/
def range (f : Flags) (s : ClassScan) (c : Char) (cs : List Char) :
    Option (ClassStep × List Char) := do
  let (low, rest) ← f.primitive? c cs
  let rest := f.skip rest
  let alone := if f.admitsInClass low then some (ClassStep.more (s.item 0), rest) else none
  match rest with
  | '-' :: after =>
    if [some ']', some '-'].contains (f.peek after) then alone
    else
      match f.skip after with
      | [] => none
      | d :: ds => do
        let (high, rest) ← f.primitive? d ds
        match low, high with
        | .literal a _, .literal b _ =>
          if a ≤ b && f.admitsInClass low && f.admitsInClass high then
            some (.more (s.item 0), rest)
          else none
        | _, _ => none
  | _ => alone

/-- Read an item or an operator that begins with a character. A class cannot be negated where
Unicode is switched off. -/
def step (f : Flags) (s : ClassScan) (c : Char) (cs : List Char) :
    Option (ClassStep × List Char) :=
  if s.fresh && c == '^' then
    if f.unicode then some (.more { s with fresh := false }, cs) else none
  else if s.atStart && c == '-' then
    if f.foldsUnicode then none
    else some (.more { s with fresh := false, items := s.items.add 0 }, cs)
  else if s.atStart && c == ']' && s.items.count == 0 then
    if f.foldsUnicode then none else some (.more (s.item 0), cs)
  else
    match c, cs with
    | '[', cs =>
      match named? cs with
      | some (negated, rest) =>
        if f.foldsUnicode || negated && !f.unicode then none else some (.more (s.item 0), rest)
      | none => some (.more (.start ((s.items, s.left) :: s.outer)), cs)
    | ']', cs => some (s.close, cs)
    | '&', '&' :: rest => some (.more s.operator, rest)
    | '-', '-' :: rest => some (.more s.operator, rest)
    | '~', '~' :: rest => some (.more s.operator, rest)
    | c, cs => s.range f c cs

end ClassScan

/-- Read a class to its end, in at most `fuel` items: its height, and what follows. -/
def Flags.readClass (f : Flags) (fuel : Nat) (s : ClassScan) (cs : List Char) :
    Option (Nat × List Char) :=
  match fuel, f.skip cs with
  | 0, _ => none
  | _, [] => none
  | fuel + 1, c :: cs =>
    match s.step f c cs with
    | none => none
    | some (.done height, rest) => some (height, rest)
    | some (.more s, rest) => f.readClass fuel s rest

end HostedRepl.Text.Pattern
