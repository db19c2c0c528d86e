/-
The elements of a pattern.

A pattern is made of characters, classes in brackets, groups in parentheses, alternatives and
repetitions. It is read without tables of Unicode: what needs to know the letters, digits or cases
beyond ASCII cannot be compiled, and where Unicode is switched off, no element may stand for a part
of a character.

* `Flags`: what is switched on for a part of a pattern, and what that allows.
* `Flags.skip`, `Flags.peek`: blanks and comments that are passed over.
* `Primitive`, `Flags.primitive?`: one character as it is written, or what an escape stands for.
* `Bundle`: how high elements are nested that stand side by side.
-/
import HostedRepl.Text.Alphanumeric
import HostedRepl.Text.Blank
import HostedRepl.Text.Hex

namespace HostedRepl.Text.Pattern

/-- What is switched on for a part of a pattern. -/
structure Flags where
  unicode : Bool
  ignoreCase : Bool
  /-- Blanks and comments between the elements are passed over. -/
  spaced : Bool
  deriving DecidableEq, Repr

/-- What the letters at the begin of a group can switch. -/
def flagLetters : List Char := ['i', 'm', 's', 'U', 'u', 'R', 'x']

/-- The part asks for the other case of characters in Unicode. -/
def Flags.foldsUnicode (f : Flags) : Bool := f.unicode && f.ignoreCase

/-- Switch on what is named before a hyphen and off what is named after it. -/
def Flags.change (f : Flags) (letters : List Char) : Flags :=
  let on := letters.takeWhile (· != '-')
  let switch (c : Char) (now : Bool) : Bool :=
    if on.contains c then true else if letters.contains c then false else now
  ⟨switch 'u' f.unicode, switch 'i' f.ignoreCase, switch 'x' f.spaced⟩

/-! ### Blanks and comments -/

/-- What follows blanks and comments. A comment lasts from a number sign to the end of its line. -/
def skipBlanks (inComment : Bool) : List Char → List Char
  | [] => []
  | c :: cs =>
    if inComment then skipBlanks (c != '\n') cs
    else if isBlank c then skipBlanks false cs
    else if c == '#' then skipBlanks true cs
    else c :: cs

/-- What follows the blanks and comments that are passed over. -/
def Flags.skip (f : Flags) (cs : List Char) : List Char :=
  if f.spaced then skipBlanks false cs else cs

/-- The first character that is not blank, or the first one of all where there is none. After a
number sign it is the first one of the comment. -/
def peekBlanks (whole : List Char) (inComment : Bool) : List Char → Option Char
  | [] => whole.head?
  | c :: cs =>
    if isBlank c then peekBlanks whole inComment cs
    else if c == '#' && !inComment then peekBlanks whole true cs
    else some c

/-- The character that decides whether a hyphen makes a range. -/
def Flags.peek (f : Flags) (cs : List Char) : Option Char :=
  if f.spaced then peekBlanks cs false cs else cs.head?

/-! ### Primitives -/

/-- One character as it is written, or what an escape stands for. -/
inductive Primitive where
  /-- A character; `byte` holds if it is given by two digits and so could stand for one byte. -/
  | literal (c : Char) (byte : Bool)
  /-- The digits, blanks or word characters, or all others. -/
  | set (negated : Bool)
  /-- The begin or the end of the text. -/
  | edge
  /-- The begin or the end of a word. -/
  | boundary
  deriving DecidableEq, Repr

/-- The number of so many hexadecimal digits, and what follows. -/
def Flags.hexNumber? (f : Flags) : (digits value : Nat) → List Char → Option (Nat × List Char)
  | 0, value, cs => some (value, cs)
  | digits + 1, value, cs =>
    match f.skip cs with
    | [] => none
    | d :: cs => (hexValue? d).bind fun v => f.hexNumber? digits (16 * value + v) cs

/-- The character with a number of so many digits. -/
def Flags.numbered? (f : Flags) (digits : Nat) (cs : List Char) :
    Option (Primitive × List Char) := do
  let (n, rest) ← f.hexNumber? digits 0 cs
  if n.isValidChar then some (.literal (Char.ofNat n) (digits == 2), rest) else none

/-- The control characters that have a letter. -/
def controls : List (Char × Char) :=
  [('a', '\x07'), ('f', '\x0c'), ('t', '\t'), ('n', '\n'), ('r', '\r'), ('v', '\x0b')]

/-- What a character stands for after a backslash. -/
def escaped? (c : Char) : Option Primitive :=
  match controls.lookup c with
  | some control => some (.literal control false)
  | none =>
    if ['b', 'B', '<', '>'].contains c then some .boundary
    else if ['A', 'z'].contains c then some .edge
    else if ['d', 's', 'w'].contains c then some (.set false)
    else if ['D', 'S', 'W'].contains c then some (.set true)
    else if c.isAlphanum || 127 < c.toNat then none
    else some (.literal c false)

/-- What stands after a backslash. -/
def Flags.escape? (f : Flags) : List Char → Option (Primitive × List Char)
  | [] => none
  | 'x' :: cs => f.numbered? 2 cs
  | 'u' :: cs => f.numbered? 4 cs
  | 'U' :: cs => f.numbered? 8 cs
  | c :: cs => (escaped? c).map fun p => (p, cs)

/-- The primitive that begins with a character, and what follows it. -/
def Flags.primitive? (f : Flags) (c : Char) (cs : List Char) : Option (Primitive × List Char) :=
  if c == '\\' then f.escape? cs else some (.literal c false, cs)

/-- A primitive may stand outside of classes. -/
def Flags.admits (f : Flags) : Primitive → Bool
  | .literal c byte => !f.foldsUnicode && (f.unicode || !byte || c.toNat < 128)
  | .set negated => !f.unicode && !negated
  | .edge | .boundary => true

/-- A primitive may stand in a class. -/
def Flags.admitsInClass (f : Flags) : Primitive → Bool
  | .literal c _ => !f.foldsUnicode && (f.unicode || c.toNat < 128)
  | .set negated => !f.unicode && !negated
  | .edge | .boundary => false

/-! ### Nesting -/

/-- Elements side by side: how many they are, and how high the highest is nested. -/
structure Bundle where
  count : Nat
  highest : Nat
  deriving DecidableEq, Repr

namespace Bundle

/-- No elements. -/
def empty : Bundle := ⟨0, 0⟩

/-- One more element, of a height. -/
def add (b : Bundle) (height : Nat) : Bundle := ⟨b.count + 1, max b.highest height⟩

/-- How high the elements are nested together: two of them or more are one level of their own. -/
def height (b : Bundle) : Nat := if b.count ≤ 1 then b.highest else b.highest + 1

end Bundle

end HostedRepl.Text.Pattern
