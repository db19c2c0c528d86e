/-
What requests do to the sessions of the bundled language.

* `Lisp.Runtime.Stores`: the evaluator keeps a state for a session;
  `stores_evalIn`, `stores_clone`, `stores_close`: after each operation.
* `Deed`, `deed`: what answering a request does to the registry and the
  evaluator.
* `answerTo_ofRuntime`: **answering a request** does its deed.
* `process_ofRuntime`: so does processing an item.
-/
import Mathlib.Tactic
import HostedRepl.Bridge.Exchange
import HostedRepl.Proofs.Session.Id

namespace HostedRepl

open Wire (Request)

/-! ### The evaluator -/

namespace Lisp.Runtime

variable {r : Runtime} {k id : SessionId}

/-- The runtime keeps a state for the session. -/
def Stores (r : Runtime) (id : SessionId) : Prop := r.hasSession id.render = true

lemma stores_set {sessions : Table String} {ns : String} :
    ((sessions.set k.render ns).find? id.render).isSome = true ↔
      id = k ∨ (sessions.find? id.render).isSome = true := by
  rw [Table.find?_set]
  by_cases same : id = k
  · simp [same]
  · simp [same, SessionId.render_injective.ne same]

/-- An evaluation makes a session. -/
lemma stores_evalIn (code : String) :
    (r.evalIn k.render code).2.Stores id ↔ id = k ∨ r.Stores id := stores_set

lemma stores_clone (parent : Option String) :
    (r.clone parent k.render).Stores id ↔ id = k ∨ r.Stores id := stores_set

lemma stores_close : (r.close k.render).Stores id ↔ id ≠ k ∧ r.Stores id := by
  rw [Stores, Stores, hasSession, hasSession, close, Table.find?_erase]
  by_cases same : id = k
  · simp [same]
  · simp [same, SessionId.render_injective.ne same]

end Lisp.Runtime

namespace Bridge

open Lisp (Runtime)

/-! ### Answers -/

/-- What answering a request does to sessions. -/
inductive Deed where
  | nothing
  | evaluate (code : String)
  | clone
  | close

/-- The deed of a request, by its operation and the code that it gives. -/
def deed (request : Request) : Deed :=
  match request.op.bind Operation.ofName? with
  | some .eval => ((request.fields.text? "code").map Deed.evaluate).getD .nothing
  | some .loadFile => ((request.fields.text? "file").map Deed.evaluate).getD .nothing
  | some .clone => .clone
  | some .close => .close
  | _ => .nothing

/-- The registry and the runtime after a deed in a session. -/
def Deed.apply (session : SessionId) (registry : Registry) (r : Runtime) :
    Deed → Registry × Runtime
  | .nothing => (registry, r)
  | .evaluate code => (registry, (r.evalIn session.render code).2)
  | .clone =>
    let (child, registry) := registry.create .cloned
    (registry, r.clone (some session.render) child.render)
  | .close => (registry.remove session, r.close session.render)

/-- An evaluation changes the runtime and nothing else but the responses. -/
lemma evaluate_ofRuntime (session : SessionId) (reply : Wire.Response) (code : String)
    (a : Answering Runtime) :
    ∃ frames, evaluate .ofRuntime session reply code a =
      .ok () ⟨a.registry, (a.evaluator.evalIn session.render code).2, frames⟩ := by
  have asked : ask (Evaluator.ofRuntime.evaluate session code) a =
      .ok (.ofOutcome (a.evaluator.evalIn session.render code).1)
        { a with evaluator := (a.evaluator.evalIn session.render code).2 } := rfl
  simp only [evaluate, Bind.bind, EStateM.bind, asked]
  generalize Evaluation.ofOutcome (a.evaluator.evalIn session.render code).1 = evaluation
  obtain ⟨result, output⟩ := evaluation
  cases output <;> cases result <;> exact ⟨_, rfl⟩

/-- An operation of the bundled language does its deed and never panics. -/
lemma dispatch_ofRuntime (session : SessionId) (request : Request) (a : Answering Runtime) :
    ∃ frames, dispatch .ofRuntime session request a = .ok ()
      ⟨((deed request).apply session a.registry a.evaluator).1,
        ((deed request).apply session a.registry a.evaluator).2, frames⟩ := by
  rw [dispatch, deed]
  cases request.op with
  | none => exact ⟨_, rfl⟩
  | some op =>
      simp only [Option.bind_some]
      cases Operation.ofName? op with
      | none => exact ⟨_, rfl⟩
      | some operation =>
          cases operation with
          | clone => exact ⟨_, rfl⟩
          | close => exact ⟨_, rfl⟩
          | describe => exact ⟨_, rfl⟩
          | lsSessions => exact ⟨_, rfl⟩
          | eval =>
              simp only [perform]
              cases request.fields.text? "code" with
              | none => exact ⟨_, rfl⟩
              | some code => exact evaluate_ofRuntime session _ code a
          | loadFile =>
              simp only [perform]
              cases request.fields.text? "file" with
              | none => exact ⟨_, rfl⟩
              | some code => exact evaluate_ofRuntime session _ code a

/-- **Answering a request** with the bundled language does its deed and never panics. -/
theorem answerTo_ofRuntime (registry : Registry) (r : Runtime) (session : SessionId)
    (request : Request) :
    (answerTo .ofRuntime registry r session request).2 =
      (none, (deed request).apply session registry r) := by
  obtain ⟨frames, answered⟩ := dispatch_ofRuntime session request ⟨registry, r, []⟩
  rw [answerTo, answered]

/-- What processing an item that somebody waits for does to sessions. -/
lemma process_ofRuntime (b : Exchange Runtime) {item : WorkItem}
    (live : item.channel.abandoned = false) :
    let did := (deed item.request).apply item.session
      (b.registry.noteOp item.session item.request.id) b.evaluator
    (b.process .ofRuntime item).2.2.registry = did.1 ∧
      (b.process .ofRuntime item).2.2.evaluator = did.2 := by
  have answered := answerTo_ofRuntime (b.registry.noteOp item.session item.request.id) b.evaluator
    item.session item.request
  rw [Exchange.process, if_neg (by simp [live])]
  exact ⟨congrArg (fun p => p.2.1) answered, congrArg (fun p => p.2.2) answered⟩

end Bridge

end HostedRepl
