/-
The sessions that the evaluator is told to close.

What an evaluator does is not known here. If its state gives an account of the
sessions that it was told to close, that account says what the server told it.

* `stateAfter`: the state in which a computation ends, also if it panics.
* `Evaluator.Logs`: an account of the closings.
* `Evaluator.recording`: every evaluator can be given one.
* `operation?`, `Operation.registryAfter`, `Operation.closed`: what the
  operation of a request does to the registry, and which session it closes.
* `Hands`: a step of answering that leaves the registry alone and hands
  sessions to the evaluator to be closed.
* `dispatch_effect`: **answering a request** does what its operation does, and
  hands over the session that it closes.
* `Exchange.process_effect`: so does processing an item that somebody waits
  for.
-/
import Mathlib.Tactic
import HostedRepl.Bridge.Exchange

namespace HostedRepl.Bridge

open Wire (Request Response)

variable {σ α β : Type}

/-! ### Accounts -/

/-- The state in which a computation ends, also if it panics. -/
def stateAfter (x : EStateM Panic σ α) (s : σ) : σ :=
  match x s with
  | .ok _ s => s
  | .error _ s => s

section StateAfter

variable {x : EStateM Panic σ α} {f : α → EStateM Panic σ β} {s s' : σ}

lemma stateAfter_bind_ok {r : α} (h : x s = .ok r s') :
    stateAfter (x >>= f) s = stateAfter (f r) s' := by
  rw [stateAfter, stateAfter]
  simp only [Bind.bind, EStateM.bind, h]

lemma stateAfter_bind_error {p : Panic} (h : x s = .error p s') :
    stateAfter (x >>= f) s = s' := by
  rw [stateAfter]
  simp only [Bind.bind, EStateM.bind, h]

/-- What the evaluator is asked changes nothing but its state. -/
lemma stateAfter_ask (x : Guarded σ α) (a : Answering σ) :
    stateAfter (ask x) a = { a with evaluator := stateAfter x a.evaluator } := by
  rw [stateAfter, ask, stateAfter]
  cases x a.evaluator <;> rfl

lemma stateAfter_askNamespace (ev : Evaluator σ) (session : SessionId) (a : Answering σ) :
    stateAfter (askNamespace ev session) a = a := by
  have read (f : Answering σ → Dispatch σ String) : (get >>= f) a = f a a := rfl
  rw [stateAfter, askNamespace, read]
  cases ev.namespaceOf session a.evaluator <;> rfl

end StateAfter

/-- A part of the evaluator's state that lists the sessions it was told to close, oldest first: a
closing adds its session, also if it panics, and nothing else changes the list. -/
structure Evaluator.Logs (ev : Evaluator σ) (log : σ → List SessionId) : Prop where
  evaluate : ∀ id code s, log (stateAfter (ev.evaluate id code) s) = log s
  clone : ∀ parent child s, log (stateAfter (ev.clone parent child) s) = log s
  close : ∀ id s, log (stateAfter (ev.close id) s) = log s ++ [id]

/-- Write sessions down that a computation is told to close. -/
def noting (closed : List SessionId) (x : Guarded σ α) : Guarded (σ × List SessionId) α := fun s =>
  match x s.1 with
  | .ok a s' => .ok a (s', s.2 ++ closed)
  | .error p s' => .error p (s', s.2 ++ closed)

lemma stateAfter_noting (closed : List SessionId) (x : Guarded σ α) (s : σ × List SessionId) :
    stateAfter (noting closed x) s = (stateAfter x s.1, s.2 ++ closed) := by
  rw [stateAfter, stateAfter, noting]
  cases x s.1 <;> rfl

/-- The evaluator with the sessions that it was told to close beside its state. -/
def Evaluator.recording (ev : Evaluator σ) : Evaluator (σ × List SessionId) where
  evaluate id code := noting [] (ev.evaluate id code)
  clone parent child := noting [] (ev.clone parent child)
  close id := noting [id] (ev.close id)
  namespaceOf id s := ev.namespaceOf id s.1

/-- Every evaluator can be given an account. -/
lemma Evaluator.logs_recording (ev : Evaluator σ) : ev.recording.Logs Prod.snd where
  evaluate id code s := by
    rw [recording, stateAfter_noting, List.append_nil]
  clone parent child s := by
    rw [recording, stateAfter_noting, List.append_nil]
  close id s := by
    rw [recording, stateAfter_noting]

/-! ### Operations -/

/-- The operation of a request. -/
def operation? (request : Request) : Option Operation := request.op.bind Operation.ofName?

/-- What an operation in a session makes of the registry. -/
def Operation.registryAfter (session : SessionId) (r : Registry) : Option Operation → Registry
  | some .clone => (r.create .cloned).2
  | some .close => r.remove session
  | _ => r

/-- An operation registers a clone, removes its session, or leaves the registry alone. -/
lemma Operation.registryAfter_cases (session : SessionId) (r : Registry)
    (operation : Option Operation) :
    registryAfter session r operation = (r.create .cloned).2 ∨
      registryAfter session r operation = r.remove session ∨
      registryAfter session r operation = r := by
  cases operation with
  | none => exact .inr (.inr rfl)
  | some operation =>
      cases operation with
      | clone => exact .inl rfl
      | close => exact .inr (.inl rfl)
      | describe => exact .inr (.inr rfl)
      | eval => exact .inr (.inr rfl)
      | loadFile => exact .inr (.inr rfl)
      | lsSessions => exact .inr (.inr rfl)

/-- The session that an operation in it closes. -/
def Operation.closed (session : SessionId) : Option Operation → List SessionId
  | some .close => [session]
  | _ => []

/-- The step of answering leaves the registry alone and hands these sessions over to be closed. -/
def Hands (ev : Evaluator σ) (closed : List SessionId) (x : Dispatch σ α) : Prop :=
  ∀ a : Answering σ, (stateAfter x a).registry = a.registry ∧
    ∀ log, ev.Logs log → log (stateAfter x a).evaluator = log a.evaluator ++ closed

namespace Hands

variable {ev : Evaluator σ} {closed : List SessionId}

/-- What is done after a step hands nothing more over. -/
lemma bind {x : Dispatch σ α} {f : α → Dispatch σ β} (first : Hands ev closed x)
    (second : ∀ r, Hands ev [] (f r)) : Hands ev closed (x >>= f) := by
  intro a
  obtain ⟨registry, logged⟩ := first a
  cases now : x a with
  | ok r a' =>
      rw [stateAfter, now] at registry logged
      rw [stateAfter_bind_ok now]
      obtain ⟨registry', logged'⟩ := second r a'
      refine ⟨registry'.trans registry, fun log logs => ?_⟩
      rw [logged' log logs, List.append_nil, logged log logs]
  | error p a' =>
      rw [stateAfter, now] at registry logged
      rw [stateAfter_bind_error now]
      exact ⟨registry, logged⟩

lemma pure (r : α) : Hands ev [] (pure r) :=
  fun _ => ⟨rfl, fun _ _ => (List.append_nil _).symm⟩

lemma emit (r : Response) : Hands ev [] (emit r) :=
  fun _ => ⟨rfl, fun _ _ => (List.append_nil _).symm⟩

lemma ask {x : Guarded σ α}
    (h : ∀ log, ev.Logs log → ∀ s, log (stateAfter x s) = log s ++ closed) :
    Hands ev closed (ask x) := by
  intro a
  rw [stateAfter_ask]
  exact ⟨rfl, fun log logs => h log logs a.evaluator⟩

lemma evaluate (session : SessionId) (reply : Response) (code : String) :
    Hands ev [] (evaluate ev session reply code) := by
  have output (o : Option String) : Hands ev [] (emitOutput reply o) := by
    cases o with
    | none => exact pure ()
    | some out => exact emit _
  have name : Hands ev [] (askNamespace ev session) := by
    intro a
    rw [stateAfter_askNamespace]
    exact ⟨rfl, fun log _ => (List.append_nil _).symm⟩
  have result (v : Except Failure String) : Hands ev [] (emitResult ev session reply v) := by
    cases v with
    | ok v => exact name.bind fun ns => emit _
    | error failure => exact (emit _).bind fun _ => emit _
  refine (ask fun log logs s => ?_).bind fun evaluation => ?_
  · rw [logs.evaluate, List.append_nil]
  · exact (output _).bind fun _ => result _

end Hands

/-! ### Answers -/

/-- An operation of a request changes the registry first and asks the evaluator then. -/
lemma perform_effect (ev : Evaluator σ) (session : SessionId) (request : Request)
    (reply : Response) (operation : Operation) (a : Answering σ) :
    let a' := stateAfter (perform ev session request reply operation) a
    a'.registry = Operation.registryAfter session a.registry (some operation) ∧
      ∀ log, ev.Logs log →
        log a'.evaluator = log a.evaluator ++ Operation.closed session (some operation) := by
  cases operation with
  | clone =>
      have asks : Hands ev [] (do
          Bridge.ask (ev.clone session (a.registry.create .cloned).1)
          emit ((reply.putText "new-session" (a.registry.create .cloned).1.render).withStatus
            [.done])) := by
        refine (Hands.ask fun log logs s => ?_).bind fun _ => Hands.emit _
        rw [logs.clone, List.append_nil]
      exact asks { a with registry := (a.registry.create .cloned).2 }
  | close =>
      have asks (status : List Wire.Status) : Hands ev [session] (do
          Bridge.ask (ev.close session)
          emit (reply.withStatus status)) :=
        (Hands.ask fun log logs s => logs.close session s).bind fun _ => Hands.emit _
      exact asks _ { a with registry := a.registry.remove session }
  | describe => exact Hands.emit _ a
  | lsSessions => exact Hands.emit _ a
  | eval =>
      rw [perform]
      cases request.fields.text? "code" with
      | none => exact Hands.emit _ a
      | some code => exact Hands.evaluate session reply code a
  | loadFile =>
      rw [perform]
      cases request.fields.text? "file" with
      | none => exact Hands.emit _ a
      | some code => exact Hands.evaluate session reply code a

/-- **Answering a request** does to the registry what its operation does, and hands the session that
the operation closes over to the evaluator. -/
theorem dispatch_effect (ev : Evaluator σ) (session : SessionId) (request : Request)
    (a : Answering σ) :
    let a' := stateAfter (dispatch ev session request) a
    a'.registry = Operation.registryAfter session a.registry (operation? request) ∧
      ∀ log, ev.Logs log →
        log a'.evaluator = log a.evaluator ++ Operation.closed session (operation? request) := by
  rw [dispatch, operation?]
  cases request.op with
  | none => exact Hands.emit _ a
  | some op =>
      simp only [Option.bind_some]
      cases Operation.ofName? op with
      | none => exact Hands.emit _ a
      | some operation => exact perform_effect ev session request _ operation a

lemma answerTo_effect (ev : Evaluator σ) (registry : Registry) (s : σ) (session : SessionId)
    (request : Request) :
    let answered := (answerTo ev registry s session request).2.2
    answered.1 = Operation.registryAfter session registry (operation? request) ∧
      ∀ log, ev.Logs log →
        log answered.2 = log s ++ Operation.closed session (operation? request) := by
  have effect := dispatch_effect ev session request ⟨registry, s, []⟩
  rw [stateAfter] at effect
  rw [answerTo]
  cases h : dispatch ev session request ⟨registry, s, []⟩ with
  | ok r a =>
      rw [h] at effect
      exact effect
  | error p a =>
      rw [h] at effect
      exact effect

namespace Exchange

variable (ev : Evaluator σ) (b : Exchange σ) {item : WorkItem}

/-- An item that nobody waits for changes neither the registry nor the evaluator. -/
lemma process_dead (dead : item.channel.abandoned = true) :
    (b.process ev item).2.2.registry = b.registry ∧
      (b.process ev item).2.2.evaluator = b.evaluator := by
  rw [process, if_pos dead]
  exact ⟨rfl, rfl⟩

/-- Processing an item that somebody waits for. -/
lemma process_effect (live : item.channel.abandoned = false) :
    let b' := (b.process ev item).2.2
    b'.registry = Operation.registryAfter item.session
        (b.registry.noteOp item.session item.request.id) (operation? item.request) ∧
      ∀ log, ev.Logs log → log b'.evaluator =
        log b.evaluator ++ Operation.closed item.session (operation? item.request) := by
  obtain ⟨registry, logged⟩ := answerTo_effect ev
    (b.registry.noteOp item.session item.request.id) b.evaluator item.session item.request
  rw [process, if_neg (by simp [live])]
  exact ⟨registry, logged⟩

end Exchange

end HostedRepl.Bridge
