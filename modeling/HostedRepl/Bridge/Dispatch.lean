/-
Answering a request.

* `Operation`: what the server can do, by the `op` of a request.
* `Answering`: the state in which a request is answered: the registry, the evaluator's state and
  the responses so far.
* `dispatch`: the answer to one request. Every response repeats the request's id and names the
  session, and the last one has `done` in its status.
-/
import HostedRepl.Bridge.Evaluator
import HostedRepl.Session.Registry
import HostedRepl.Wire.Message

namespace HostedRepl.Bridge

open Wire (Request Response Status Fields)

/-- What the server can do. -/
inductive Operation where
  | clone
  | close
  | describe
  | eval
  | loadFile
  | lsSessions
  deriving DecidableEq, Repr

namespace Operation

/-- The name of an operation. -/
def name : Operation → String
  | clone => "clone"
  | close => "close"
  | describe => "describe"
  | eval => "eval"
  | loadFile => "load-file"
  | lsSessions => "ls-sessions"

/-- All operations. -/
def all : List Operation := [clone, close, describe, eval, loadFile, lsSessions]

/-- The operation of a name. -/
def ofName? (op : String) : Option Operation := all.find? fun o => o.name == op

end Operation

/-- The state in which a request is answered. -/
structure Answering (σ : Type) where
  registry : Registry
  evaluator : σ
  /-- The responses so far, last one first. -/
  frames : List Response

/-- A step of answering. When it panics, the responses so far have been given. -/
abbrev Dispatch (σ : Type) := EStateM Panic (Answering σ)

variable {σ : Type}

/-- Give a response. -/
def emit (r : Response) : Dispatch σ Unit := modify fun a => { a with frames := r :: a.frames }

/-- Ask the evaluator. -/
def ask {α : Type} (x : Guarded σ α) : Dispatch σ α := fun a =>
  match x a.evaluator with
  | .ok b s => .ok b { a with evaluator := s }
  | .error p s => .error p { a with evaluator := s }

/-- The current namespace of a session. -/
def askNamespace (ev : Evaluator σ) (session : SessionId) : Dispatch σ String := do
  match ev.namespaceOf session (← get).evaluator with
  | .ok ns => return ns
  | .error p => throw p

/-- The version the server gives. -/
def version : String := "0.1.0"

/-- The response that lists the operations and the version. -/
def describe (reply : Response) : Response :=
  let ops := Fields.ofPairs (Operation.all.map fun o => (Wire.Bytes.ofText o.name, .dict []))
  let own := Fields.put [] "version-string" (.text version)
  let versions := Fields.put [] "tickrepl" (.dict own)
  ((reply.put "ops" (.dict ops)).put "versions" (.dict versions)).withStatus [.done]

/-- The response to a request without the parameter it needs. -/
def missingParam (reply : Response) (op param : String) : Response :=
  (reply.putText "err" (op ++ " requires a `" ++ param ++ "` parameter")).withStatus [.error, .done]

/-- Give the output of an evaluation, if there is any. -/
def emitOutput (reply : Response) : Option String → Dispatch σ Unit
  | some out => emit (reply.putText "out" out)
  | none => pure ()

/-- Give the value of an evaluation, or the message and the kind of its error. -/
def emitResult (ev : Evaluator σ) (session : SessionId) (reply : Response) :
    Except Failure String → Dispatch σ Unit
  | .ok v => do
    let ns ← askNamespace ev session
    emit (((reply.putText "value" v).putText "ns" ns).withStatus [.done])
  | .error failure => do
    emit (reply.putText "err" (failure.message ++ "\n"))
    emit ((reply.putText "ex" failure.category).withStatus [.evalError, .done])

/-- Evaluate a text: its output first, then the result. -/
def evaluate (ev : Evaluator σ) (session : SessionId) (reply : Response) (code : String) :
    Dispatch σ Unit := do
  let evaluation ← ask (ev.evaluate session code)
  emitOutput reply evaluation.output
  emitResult ev session reply evaluation.result

/-- Carry out an operation. -/
def perform (ev : Evaluator σ) (session : SessionId) (request : Request) (reply : Response) :
    Operation → Dispatch σ Unit
  | .clone => do
    let (child, registry) := (← get).registry.create .cloned
    modify fun a => { a with registry }
    ask (ev.clone session child)
    emit ((reply.putText "new-session" child.render).withStatus [.done])
  | .close => do
    -- A session that was not registered has been replaced before; closing it is reported.
    let known := match request.session with
      | some s => s == session.render
      | none => true
    modify fun a => { a with registry := a.registry.remove session }
    ask (ev.close session)
    let status : List Status :=
      if known then [.done, .sessionClosed] else [.error, .unknownSession, .done]
    emit (reply.withStatus status)
  | .describe => emit (describe reply)
  | .lsSessions => do
    let ids := (← get).registry.ids
    emit ((reply.put "sessions" (.texts (ids.map SessionId.render))).withStatus [.done])
  | .eval =>
    match request.fields.text? "code" with
    | some code => evaluate ev session reply code
    | none => emit (missingParam reply "eval" "code")
  | .loadFile =>
    match request.fields.text? "file" with
    | some code => evaluate ev session reply code
    | none => emit (missingParam reply "load-file" "file")

/-- Answer a request in a session. -/
def dispatch (ev : Evaluator σ) (session : SessionId) (request : Request) : Dispatch σ Unit :=
  let reply : Response := .reply request.id (some session.render)
  match request.op with
  | some op =>
    match Operation.ofName? op with
    | some operation => perform ev session request reply operation
    | none =>
      emit ((reply.putText "err" ("unknown op: " ++ op)).withStatus [.error, .unknownOp, .done])
  | none =>
    emit ((reply.putText "err" "request has no op").withStatus [.error, .unknownOp, .done])

/-- The responses of an answer, in order, how it ended, and the registry and evaluator after it. -/
def answerTo (ev : Evaluator σ) (registry : Registry) (s : σ) (session : SessionId)
    (request : Request) : List Response × Option Panic × Registry × σ :=
  match dispatch ev session request ⟨registry, s, []⟩ with
  | .ok _ a => (a.frames.reverse, none, a.registry, a.evaluator)
  | .error p a => (a.frames.reverse, some p, a.registry, a.evaluator)

end HostedRepl.Bridge
