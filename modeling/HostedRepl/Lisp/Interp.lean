/-
The state of an interpreter.

* `Interp`: the namespaces, the current one, and what has been printed. `Interp.start` has the
  built-in functions in the core namespace.
* `Interp.global?`: a global variable, by a qualified or a plain name.
* `Eval`: computations on the state that may fail. The state is kept when they fail.
-/
import HostedRepl.Lisp.Error
import HostedRepl.Table

namespace HostedRepl.Lisp

/-- The namespace of the built-in functions, visible in every other one. -/
def coreNamespace : String := "clojure.core"

/-- The global variables, by namespace and name. -/
abbrev Namespaces := Table (Table Value)

/-- The state of an interpreter. -/
structure Interp where
  namespaces : Namespaces
  /-- The current namespace. -/
  current : String
  /-- What has been printed since the output was last taken. -/
  output : String
  /-- The number of closures made so far, which tells the next one apart. -/
  closures : Nat

namespace Interp

/-- The variables of the core namespace. -/
def core : Table Value := Builtin.all.map fun b => (b.name, .builtin b)

/-- An interpreter in a namespace of its own. One that starts in the core namespace finds it
empty. -/
def start (ns : String) : Interp where
  namespaces := Table.set [(coreNamespace, core)] ns []
  current := ns
  output := ""
  closures := 0

/-- The namespace `ns` exists. -/
def ensure (i : Interp) (ns : String) : Interp :=
  match i.namespaces.find? ns with
  | some _ => i
  | none => { i with namespaces := i.namespaces.set ns [] }

/-- Make `ns` the current namespace. -/
def enter (i : Interp) (ns : String) : Interp := { i.ensure ns with current := ns }

/-- A variable of one namespace. -/
def binding? (i : Interp) (ns name : String) : Option Value :=
  (i.namespaces.find? ns).bind fun vars => vars.find? name

/-- The parts of a qualified name: those before and after its first slash, if neither is empty. -/
def qualified? (name : String) : Option (String × String) :=
  let cs := name.toList
  let ns := cs.takeWhile (· != '/')
  let inner := (cs.dropWhile (· != '/')).drop 1
  if ns.isEmpty || inner.isEmpty then none else some (String.ofList ns, String.ofList inner)

/-- A global variable: of the named namespace if the name is qualified, else of the current one or
of the core. -/
def global? (i : Interp) (name : String) : Option Value :=
  match qualified? name with
  | some (ns, name) => i.binding? ns name
  | none => (i.binding? i.current name).or (i.binding? coreNamespace name)

/-- Give a variable of the current namespace a value. -/
def define (i : Interp) (name : String) (v : Value) : Interp :=
  let vars := (i.namespaces.find? i.current).getD []
  { i with namespaces := i.namespaces.set i.current (vars.set name v) }

/-- Add to the output. -/
def print (i : Interp) (text : String) : Interp := { i with output := i.output ++ text }

/-- The names of the namespaces in ascending order. -/
def names (i : Interp) : List String :=
  (i.namespaces.map Prod.fst).mergeSort fun a b => !(b < a)

end Interp

/-- A computation on the state of an interpreter. A failed one keeps the state it got to. -/
abbrev Eval := EStateM EvalError Interp

/-- A result that needs no state. -/
def Eval.lift {α : Type} : Except EvalError α → Eval α
  | .ok a => pure a
  | .error e => throw e

end HostedRepl.Lisp
