/-
The printed forms of a value.

* `floatLayout`: how a float is written.
* `Value.print`: the readable form, in which strings keep their quotes and escapes.
* `Value.display`: the form for people, in which a string is its characters.
-/
import HostedRepl.Lisp.Value
import HostedRepl.Decimal.Layout

namespace HostedRepl.Lisp

/-- Floats always have a point or an exponent; numbers from `1e16` on and below `1e-4` have an
exponent. -/
def floatLayout : Decimal.Layout where
  positional := some (-4, 16)
  whole := ".0"
  plus := ""
  tiesUp := true
  nan := "NaN"
  infinity := fun negative => if negative then "-inf" else "inf"

/-- The characters that stand for one character of a string in readable form. -/
def escapeChar (c : Char) : List Char :=
  match c with
  | '"' => ['\\', '"']
  | '\\' => ['\\', '\\']
  | '\n' => ['\\', 'n']
  | '\t' => ['\\', 't']
  | '\r' => ['\\', 'r']
  | c => [c]

/-- A string in readable form. -/
def escapeString (s : String) : String :=
  String.ofList ('"' :: s.toList.flatMap escapeChar ++ ['"'])

namespace Value

mutual

/-- Write a value after the text `out`, readably or for people. -/
def write (readably : Bool) : Value → (out : String) → String
  | nil, out => out ++ "nil"
  | bool b, out => out ++ (if b then "true" else "false")
  | int n, out => out ++ toString n.toInt
  | float x, out => out ++ floatLayout.render x
  | str s, out => out ++ (if readably then escapeString s else s)
  | keyword name, out => out ++ ":" ++ name
  | symbol name, out => out ++ name
  | list [], out => out ++ "()"
  | list (v :: vs), out => writeTail readably vs (write readably v (out ++ "(")) ++ ")"
  | vector [], out => out ++ "[]"
  | vector (v :: vs), out => writeTail readably vs (write readably v (out ++ "[")) ++ "]"
  | closure f, out => out ++ "#<fn " ++ f.name.getD "anonymous" ++ ">"
  | builtin b, out => out ++ "#<fn " ++ b.name ++ ">"

/-- Write the items after the first one, each after a space. -/
def writeTail (readably : Bool) : List Value → (out : String) → String
  | [], out => out
  | v :: vs, out => writeTail readably vs (write readably v (out ++ " "))

end

/-- The readable form of a value. -/
def print (v : Value) : String := write true v ""

/-- The form of a value for people. -/
def display (v : Value) : String := write false v ""

end Value

end HostedRepl.Lisp
