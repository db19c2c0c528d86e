/-
What the server asks of a language.

The server knows nothing of the language it serves beyond these four operations. They work on a
state of their own and may panic, that is fail in a way the language does not account for; the
state then stays as it was at that moment.

* `Panic`, `Guarded`: a failure outside the language, and a computation that may end in one.
* `Evaluation`: what evaluating a text gives.
* `Evaluator`: the operations.
* `Evaluator.ofRuntime`: the operations of the bundled language.
-/
import HostedRepl.Session.Id
import HostedRepl.Lisp.Runtime

namespace HostedRepl.Bridge

/-- A failure outside the language, with its text if it has one. -/
structure Panic where
  text : Option String
  deriving DecidableEq, Repr

/-- The text of a panic. -/
def Panic.reason (p : Panic) : String := p.text.getD "unknown panic"

/-- A computation on a state that may panic. -/
abbrev Guarded (σ : Type) := EStateM Panic σ

/-- A failed evaluation. -/
structure Failure where
  /-- The short name of the kind of error. -/
  category : String
  message : String
  deriving DecidableEq, Repr

/-- The text of a failure. -/
def Failure.text (f : Failure) : String := f.category ++ ": " ++ f.message

/-- What evaluating a text gives. -/
structure Evaluation where
  /-- The printed value. -/
  result : Except Failure String
  /-- What was printed, unless nothing was. -/
  output : Option String

/-- The operations the server needs, on a state `σ`. -/
structure Evaluator (σ : Type) where
  /-- Evaluate a text in a session. -/
  evaluate : SessionId → (code : String) → Guarded σ Evaluation
  /-- Begin `child` with a copy of the state of `parent`. -/
  clone : (parent child : SessionId) → Guarded σ Unit
  /-- Forget a session. -/
  close : SessionId → Guarded σ Unit
  /-- The current namespace of a session. -/
  namespaceOf : SessionId → σ → Except Panic String

/-- The result of an evaluation as the client sees it. -/
def Evaluation.ofOutcome (o : Lisp.Outcome) : Evaluation where
  result :=
    match o.result with
    | .ok v => .ok v.print
    | .error e => .error ⟨e.category, e.message⟩
  output := if o.output.isEmpty then none else some o.output

/-- The bundled language. Its sessions are named by the canonical text of their ids. -/
def Evaluator.ofRuntime : Evaluator Lisp.Runtime where
  evaluate id code := do
    let (outcome, r) := (← get).evalIn id.render code
    set r
    return .ofOutcome outcome
  clone parent child := modify fun r => r.clone (some parent.render) child.render
  close id := modify fun r => r.close id.render
  namespaceOf id r := .ok (r.namespaceOf id.render)

end HostedRepl.Bridge
