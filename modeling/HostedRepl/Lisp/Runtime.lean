/-
Evaluation in sessions.

The sessions share the global variables and differ in their current namespace. Each evaluation
enters the namespace of its session and notes where the code left it.

* `Outcome`: the result of an evaluation, its output, and the namespace after it.
* `Runtime`: an interpreter with the namespaces of the sessions and of code outside any session.
* `Runtime.evalText`, `evalFile`, `evalIn`: evaluate a text or a file, outside or in a session.
* `Runtime.clone`, `close`: begin and end a session.
-/
import HostedRepl.Lisp.Eval
import HostedRepl.Lisp.Reader

namespace HostedRepl.Lisp

/-- The namespace of a new session. -/
def defaultNamespace : String := "user"

/-- What an evaluation gives. -/
structure Outcome where
  result : Except EvalError Value
  output : String
  /-- The namespace after the evaluation. -/
  ns : String

/-- An interpreter and its sessions. -/
structure Runtime where
  interp : Interp
  /-- The current namespace of each session. -/
  sessions : Table String
  /-- The current namespace outside any session. -/
  outside : String

namespace Interp

/-- Run a computation and take the state it leaves. -/
def run {α : Type} (i : Interp) (x : Eval α) : Except EvalError α × Interp :=
  match x i with
  | .ok a i => (.ok a, i)
  | .error e i => (.error e, i)

/-- Read and evaluate a text. -/
def evalText (i : Interp) (code : String) : Except EvalError Value × Interp :=
  match read code with
  | .ok forms => i.run (evalForms forms)
  | .error e => (.error (.read e), i)

end Interp

namespace Runtime

/-- A runtime without sessions. -/
def start : Runtime := ⟨.start defaultNamespace, [], defaultNamespace⟩

/-- Evaluate a text in a namespace, and take its output. -/
def run (r : Runtime) (ns code : String) : Outcome × Runtime :=
  let (result, i) := Interp.evalText { r.interp.enter ns with output := "" } code
  (⟨result, i.output, i.current⟩, { r with interp := { i with output := "" } })

/-- Evaluate a text outside any session. -/
def evalText (r : Runtime) (code : String) : Outcome × Runtime :=
  let (outcome, r) := r.run r.outside code
  (outcome, { r with outside := outcome.ns })

/-- Evaluate a source file outside any session. -/
def evalFile (r : Runtime) (files : Files) (path : String) : Outcome × Runtime :=
  match files.readText path with
  | .ok code => r.evalText code
  | .error fault => (⟨.error (.unreadable path fault), "", r.outside⟩, r)

/-- The current namespace of a session; one that has not been used is in the default one. -/
def namespaceOf (r : Runtime) (session : String) : String :=
  (r.sessions.find? session).getD defaultNamespace

/-- Evaluate a text in a session. -/
def evalIn (r : Runtime) (session code : String) : Outcome × Runtime :=
  let (outcome, r) := r.run (r.namespaceOf session) code
  (outcome, { r with sessions := r.sessions.set session outcome.ns })

/-- Begin a session in the namespace of another one, or in the default one. -/
def clone (r : Runtime) (parent : Option String) (child : String) : Runtime :=
  let ns := (parent.bind r.sessions.find?).getD defaultNamespace
  { r with sessions := r.sessions.set child ns }

/-- The session has been used and not closed. -/
def hasSession (r : Runtime) (session : String) : Bool := (r.sessions.find? session).isSome

/-- Forget a session. -/
def close (r : Runtime) (session : String) : Runtime :=
  { r with sessions := r.sessions.erase session }

/-- The names of the namespaces in ascending order. -/
def namespaces (r : Runtime) : List String := r.interp.names

end Runtime

end HostedRepl.Lisp
