/-
The names of the built-in functions.

* `Primitive`, `HigherOrder`: the functions that only look at their arguments, and those that call
  one of them.
* `Builtin`: both, one for each function of the core namespace.
* `Builtin.name`: the symbol it is bound to; `Builtin.all` lists them.
-/

namespace HostedRepl.Lisp

/-- The built-in functions that call no other function. -/
inductive Primitive where
  | add | sub | mul | div | mod | inc | dec
  | eq | notEq | lt | gt | le | ge | not | isNil
  | str | prStr | print | println | prn
  | list | vector | count | first | rest | cons | conj | range | identity
  deriving DecidableEq, Repr

/-- The built-in functions that call their first argument. -/
inductive HigherOrder where
  | reduce | map | filter | apply
  deriving DecidableEq, Repr

/-- The built-in functions. -/
inductive Builtin where
  | primitive (p : Primitive)
  | higher (h : HigherOrder)
  deriving DecidableEq, Repr

/-- The symbol a primitive is bound to. -/
def Primitive.name : Primitive → String
  | add => "+"
  | sub => "-"
  | mul => "*"
  | div => "/"
  | mod => "mod"
  | inc => "inc"
  | dec => "dec"
  | eq => "="
  | notEq => "not="
  | lt => "<"
  | gt => ">"
  | le => "<="
  | ge => ">="
  | not => "not"
  | isNil => "nil?"
  | str => "str"
  | prStr => "pr-str"
  | print => "print"
  | println => "println"
  | prn => "prn"
  | list => "list"
  | vector => "vector"
  | count => "count"
  | first => "first"
  | rest => "rest"
  | cons => "cons"
  | conj => "conj"
  | range => "range"
  | identity => "identity"

/-- The symbol a higher-order function is bound to. -/
def HigherOrder.name : HigherOrder → String
  | reduce => "reduce"
  | map => "map"
  | filter => "filter"
  | apply => "apply"

namespace Builtin

/-- The symbol a built-in function is bound to. -/
def name : Builtin → String
  | primitive p => p.name
  | higher h => h.name

open Primitive HigherOrder in
/-- All built-in functions. -/
def all : List Builtin :=
  [add, sub, mul, div, mod, inc, dec, eq, notEq, lt, gt, le, ge, .not, isNil, str, prStr, print,
    println, prn, list, vector, count, first, rest, cons, conj, range, identity].map primitive ++
  [reduce, map, filter, apply].map higher

theorem mem_all (b : Builtin) : b ∈ all := by
  rcases b with p | h
  · cases p <;> decide
  · cases h <;> decide

theorem name_injective {a b : Builtin} (h : a.name = b.name) : a = b := by
  have all_differ : ∀ a ∈ all, ∀ b ∈ all, a.name = b.name → a = b := by decide +kernel
  exact all_differ a (mem_all a) b (mem_all b) h

end Builtin

end HostedRepl.Lisp
