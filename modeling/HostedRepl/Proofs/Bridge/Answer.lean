/-
The answer to a request.

* `Answers`: the responses are a whole answer to an item: each belongs to it,
  and the last one, and no other, says `done`.
* `Draft`, `Whole`: the responses given so far, and a whole answer.
* `Leads`: what a step of answering makes of a draft, also if it panics.
* `leads_dispatch`: **every request is answered** by one dispatch, unless
  that panics, and then what was given is a draft.
* `Exchange.process_answers`: a panic is made up for.
-/
import Mathlib.Tactic
import HostedRepl.Bridge.Exchange
import HostedRepl.Proofs.Wire.Message

namespace HostedRepl.Bridge

open Wire (Request Response Status)

/-- The response repeats the id of the request, or has none if there is none, and names the
session. -/
structure Belongs (session : SessionId) (request : Request) (r : Response) : Prop where
  id : r.id = request.id
  session : r.session = some session.render

/-- The responses are a whole answer to the item: all belong to it, and the last one, and no other,
has `done` in its status. -/
structure Answers (item : WorkItem) (frames : List Response) : Prop where
  belong : ∀ r ∈ frames, Belongs item.session item.request r
  ends : ∃ front last, frames = front ++ [last] ∧ last.isDone = true ∧
    ∀ r ∈ front, r.isDone = false

variable {σ α β : Type} {session : SessionId} {request : Request}

/-! ### Responses -/

namespace Belongs

variable {r : Response} {key : String}

lemma reply (session : SessionId) (request : Request) :
    Belongs session request (.reply request.id (some session.render)) :=
  ⟨Response.id_reply _ _, Response.session_reply _ _⟩

/-- Another field than these two changes nothing. -/
lemma put {v : Wire.Value} (h : Belongs session request r) (other : key ∉ ["id", "session"]) :
    Belongs session request (r.put key v) := by
  obtain ⟨notId, notSession⟩ : key ≠ "id" ∧ key ≠ "session" := by simpa using other
  exact ⟨(Response.id_put notId).trans h.id, (Response.session_put notSession).trans h.session⟩

lemma withStatus {entries : List Status} (h : Belongs session request r) :
    Belongs session request (r.withStatus entries) :=
  h.put (by decide)

end Belongs

/-- The responses given so far belong to the request, and none is the last one. -/
def Draft (session : SessionId) (request : Request) (frames : List Response) : Prop :=
  ∀ r ∈ frames, Belongs session request r ∧ r.isDone = false

/-- A draft and the last response, which comes first. -/
def Whole (session : SessionId) (request : Request) (frames : List Response) : Prop :=
  ∃ last front, frames = last :: front ∧ Belongs session request last ∧ last.isDone = true ∧
    Draft session request front

lemma Draft.cons {r : Response} {frames : List Response} (h : Draft session request frames)
    (belongs : Belongs session request r) (more : r.isDone = false) :
    Draft session request (r :: frames) :=
  List.forall_mem_cons.mpr ⟨⟨belongs, more⟩, h⟩

lemma Whole.answers {item : WorkItem} {frames : List Response}
    (h : Whole item.session item.request frames) : Answers item frames.reverse := by
  obtain ⟨last, front, rfl, belongs, isDone, draft⟩ := h
  refine ⟨fun r hr => ?_, front.reverse, last, List.reverse_cons, isDone, fun r hr => ?_⟩
  · rcases List.mem_cons.mp (List.mem_reverse.mp hr) with rfl | hr
    · exact belongs
    · exact (draft r hr).1
  · exact (draft r (List.mem_reverse.mp hr)).2

/-! ### Steps -/

/-- From a draft, the step leads to responses with `Q`; if it panics, still to a draft. -/
def Leads (session : SessionId) (request : Request) (x : Dispatch σ α)
    (Q : List Response → Prop) : Prop :=
  ∀ a : Answering σ, Draft session request a.frames →
    (∀ r a', x a = .ok r a' → Q a'.frames) ∧
    ∀ p a', x a = .error p a' → Draft session request a'.frames

section Steps

variable {Q : List Response → Prop} {r : Response}

lemma Leads.bind {x : Dispatch σ α} {f : α → Dispatch σ β}
    (first : Leads session request x (Draft session request))
    (second : ∀ r, Leads session request (f r) Q) : Leads session request (x >>= f) Q := by
  intro a draft
  obtain ⟨ok, error⟩ := first a draft
  cases h : x a with
  | ok r a' =>
      have rest := second r a' (ok r a' h)
      simp only [Bind.bind, EStateM.bind, h]
      exact rest
  | error p a' =>
      simp only [Bind.bind, EStateM.bind, h]
      refine ⟨fun _ _ eq => (nomatch eq), fun q a'' eq => ?_⟩
      cases eq
      exact error p a' h

/-- A step that changes no response. -/
lemma leads_of_frames {x : Dispatch σ α} (h : ∀ a, match x a with
    | .ok _ a' => a'.frames = a.frames
    | .error _ a' => a'.frames = a.frames) :
    Leads session request x (Draft session request) := by
  intro a draft
  have same := h a
  refine ⟨fun r a' eq => ?_, fun p a' eq => ?_⟩ <;>
    · rw [eq] at same
      rw [same]
      exact draft

lemma leads_pure (r : α) :
    Leads (σ := σ) session request (pure r) (Draft session request) :=
  leads_of_frames fun _ => rfl

lemma leads_get : Leads (σ := σ) session request get (Draft session request) :=
  leads_of_frames fun _ => rfl

lemma leads_modify {f : Answering σ → Answering σ} (h : ∀ a, (f a).frames = a.frames) :
    Leads session request (modify f) (Draft session request) :=
  leads_of_frames h

lemma leads_ask (x : Guarded σ α) : Leads session request (ask x) (Draft session request) := by
  refine leads_of_frames fun a => ?_
  rw [ask]
  cases x a.evaluator <;> rfl

lemma leads_askNamespace (ev : Evaluator σ) (id : SessionId) :
    Leads session request (askNamespace ev id) (Draft session request) := by
  refine leads_get.bind fun a => ?_
  cases ev.namespaceOf id a.evaluator with
  | ok ns => exact leads_pure ns
  | error p => exact leads_of_frames fun _ => rfl

/-- A response before the last one. -/
lemma leads_emit (belongs : Belongs session request r) (more : r.isDone = false) :
    Leads (σ := σ) session request (emit r) (Draft session request) := by
  intro a draft
  refine ⟨fun _ a' eq => ?_, fun _ _ eq => (nomatch eq)⟩
  cases eq
  exact draft.cons belongs more

/-- The last response. -/
lemma leads_last (belongs : Belongs session request r) (isDone : r.isDone = true) :
    Leads (σ := σ) session request (emit r) (Whole session request) := by
  intro a draft
  refine ⟨fun _ a' eq => ?_, fun _ _ eq => (nomatch eq)⟩
  cases eq
  exact ⟨r, a.frames, rfl, belongs, isDone, draft⟩

/-- A response before the last one, with a text. -/
lemma leads_text (belongs : Belongs session request r) (more : r.isDone = false) {key : String}
    (text : String) (other : key ∉ ["id", "session", "status"]) :
    Leads (σ := σ) session request (emit (r.putText key text)) (Draft session request) := by
  have free : key ∉ ["id", "session"] := fun mem => other (List.mem_append_left ["status"] mem)
  have notStatus : key ≠ "status" := fun eq => other (by simp [eq])
  exact leads_emit (belongs.put free) ((Response.isDone_put notStatus).trans more)

/-- The last response, with a status that says so. -/
lemma leads_status (belongs : Belongs session request r) {entries : List Status}
    (isDone : .done ∈ entries) :
    Leads (σ := σ) session request (emit (r.withStatus entries)) (Whole session request) :=
  leads_last belongs.withStatus (Response.isDone_withStatus.mpr isDone)

end Steps

/-! ### Operations -/

section Operations

variable (ev : Evaluator σ) {reply : Response}

lemma leads_emitOutput (belongs : Belongs session request reply) (more : reply.isDone = false)
    (output : Option String) :
    Leads (σ := σ) session request (emitOutput reply output) (Draft session request) := by
  cases output with
  | none => exact leads_pure ()
  | some out => exact leads_text belongs more out (by decide)

lemma leads_emitResult (belongs : Belongs session request reply) (more : reply.isDone = false)
    (id : SessionId) (result : Except Failure String) :
    Leads session request (emitResult ev id reply result) (Whole session request) := by
  cases result with
  | ok v =>
      refine (leads_askNamespace ev id).bind fun ns => ?_
      refine leads_status ?_ (by decide)
      exact (belongs.put (by decide)).put (by decide)
  | error failure =>
      refine (leads_text belongs more _ (by decide)).bind fun _ => ?_
      exact leads_status (belongs.put (by decide)) (by decide)

lemma leads_evaluate (belongs : Belongs session request reply) (more : reply.isDone = false)
    (id : SessionId) (code : String) :
    Leads session request (evaluate ev id reply code) (Whole session request) := by
  refine (leads_ask _).bind fun evaluation => ?_
  refine (leads_emitOutput belongs more _).bind fun _ => ?_
  exact leads_emitResult ev belongs more id _

lemma leads_missingParam (belongs : Belongs session request reply) (op param : String) :
    Leads (σ := σ) session request (emit (missingParam reply op param))
      (Whole session request) :=
  leads_status (belongs.put (by decide)) (by decide)

/-- Every operation ends with its last response. -/
lemma leads_perform (belongs : Belongs session request reply) (more : reply.isDone = false)
    (operation : Operation) :
    Leads session request (perform ev session request reply operation)
      (Whole session request) := by
  cases operation with
  | clone =>
      refine leads_get.bind fun a => ?_
      refine Leads.bind (leads_modify (f := fun b => { b with
        registry := (a.registry.create .cloned).2 }) fun _ => rfl) fun _ => ?_
      refine (leads_ask _).bind fun _ => ?_
      exact leads_status (belongs.put (by decide)) (by decide)
  | close =>
      refine Leads.bind (leads_modify (f := fun b => { b with
        registry := b.registry.remove session }) fun _ => rfl) fun _ => ?_
      refine (leads_ask _).bind fun _ => ?_
      refine leads_status belongs ?_
      split <;> split <;> decide
  | describe =>
      exact leads_status ((belongs.put (by decide)).put (by decide)) (by decide)
  | lsSessions =>
      refine leads_get.bind fun a => ?_
      exact leads_status (belongs.put (by decide)) (by decide)
  | eval =>
      rw [perform]
      cases request.fields.text? "code" with
      | some code => exact leads_evaluate ev belongs more session code
      | none => exact leads_missingParam belongs _ _
  | loadFile =>
      rw [perform]
      cases request.fields.text? "file" with
      | some code => exact leads_evaluate ev belongs more session code
      | none => exact leads_missingParam belongs _ _

/-- **Every request is answered**, and if that panics the responses so far are a draft. -/
theorem leads_dispatch (session : SessionId) (request : Request) :
    Leads session request (dispatch ev session request) (Whole session request) := by
  have belongs := Belongs.reply session request
  have more : (Response.reply request.id (some session.render)).isDone = false :=
    Response.isDone_reply _ _
  rw [dispatch]
  cases request.op with
  | none => exact leads_status (belongs.put (by decide)) (by decide)
  | some op =>
      dsimp only
      cases Operation.ofName? op with
      | none => exact leads_status (belongs.put (by decide)) (by decide)
      | some operation => exact leads_perform ev belongs more operation

end Operations

/-! ### Items -/

/-- Nothing has been sent on the channel, and a receiver that is gone wants nothing. -/
structure ReplyChannel.Waiting (c : ReplyChannel) : Prop where
  pending : c.pending = []
  gone : c.receiverGone = true → c.abandoned = true

/-- The item has been answered: its channel holds a whole answer and the end of it, and nothing can
be sent any more. -/
def AnsweredWith (item after : WorkItem) (frames : List Response) : Prop :=
  Answers item frames ∧ after.channel.pending = frames.map .frame ++ [.finished] ∧
    after.channel.senderGone = true

lemma ReplyChannel.senderGone_answer (c : ReplyChannel) (rs : List Response) :
    (c.answer rs).senderGone = true := by
  rw [answer, finish]
  split <;> rfl

/-- Answering does not change what the receiver wants. -/
lemma ReplyChannel.abandoned_answer (c : ReplyChannel) (rs : List Response) :
    (c.answer rs).abandoned = c.abandoned := by
  have sent (c : ReplyChannel) (r : Response) : (c.send r).2.abandoned = c.abandoned := by
    rw [send]
    split <;> rfl
  have finished (c : ReplyChannel) : c.finish.2.abandoned = c.abandoned := by
    rw [finish]
    split <;> rfl
  rw [answer, finished]
  induction rs generalizing c with
  | nil => rfl
  | cons r rs ih => exact (ih _).trans (sent c r)

/-- What is sent on a channel that waits arrives. -/
lemma ReplyChannel.Waiting.answer {c : ReplyChannel} (waiting : c.Waiting)
    (live : c.abandoned = false) (rs : List Response) :
    (c.answer rs).pending = rs.map .frame ++ [.finished] := by
  have here : c.receiverGone = false := by
    by_contra gone
    exact absurd (waiting.gone (by simpa using gone)) (by simp [live])
  rw [pending_answer c rs live here, waiting.pending, List.nil_append]

namespace Exchange

variable (ev : Evaluator σ)

lemma belongs_panicReport (item : WorkItem) (p : Panic) :
    Belongs item.session item.request (panicReport item p) :=
  (((Belongs.reply _ _).put (by decide)).put (by decide)).withStatus

/-- **An answer is made whole** if a panic has cut it short. -/
theorem answers_completed (item : WorkItem) (registry : Registry) (x : σ) :
    let answer := answerTo ev registry x item.session item.request
    Answers item (completed item answer.1 answer.2.1) := by
  have draft : Draft item.session item.request [] := fun _ h => absurd h List.not_mem_nil
  obtain ⟨ok, error⟩ := leads_dispatch ev item.session item.request ⟨registry, x, []⟩ draft
  rw [answerTo]
  cases h : dispatch ev item.session item.request ⟨registry, x, []⟩ with
  | ok r a => exact (ok r a h).answers
  | error p a =>
      -- none of the responses given before the panic is the last one
      have cut : a.frames.reverse.any Response.isDone = false := by
        rw [List.any_eq_false]
        intro r hr
        rw [(error p a h r (List.mem_reverse.mp hr)).2]
        exact Bool.false_ne_true
      have whole : Whole item.session item.request (panicReport item p :: a.frames) :=
        ⟨_, _, rfl, belongs_panicReport item p, Response.isDone_withStatus.mpr (by decide),
          error p a h⟩
      have answers := whole.answers
      rw [List.reverse_cons] at answers
      simp only [completed, cut]
      exact answers

/-- **Processing an item answers it**, unless nobody waits for the answer. -/
theorem process_answers (b : Exchange σ) (item : WorkItem) (waiting : item.channel.Waiting)
    (live : item.channel.abandoned = false) :
    ∃ frames, AnsweredWith item (b.process ev item).2.1 frames := by
  refine ⟨_, answers_completed ev item (b.registry.noteOp item.session item.request.id) b.evaluator,
    ?_, ?_⟩ <;> rw [process, if_neg (by simp [live])]
  · exact waiting.answer live _
  · exact ReplyChannel.senderGone_answer _ _

/-- Closing the queue answers an item with one response. -/
theorem cancel_answers (item : WorkItem) (reason : String) (waiting : item.channel.Waiting)
    (live : item.channel.abandoned = false) :
    AnsweredWith item { item with channel := item.channel.answer [item.refusal reason] }
      [item.refusal reason] := by
  have belongs : Belongs item.session item.request (item.refusal reason) :=
    ((Belongs.reply _ _).put (by decide)).withStatus
  refine ⟨⟨?_, [], _, rfl, Response.isDone_withStatus.mpr (by decide), ?_⟩, ?_, ?_⟩
  · intro r hr
    rw [List.mem_singleton.mp hr]
    exact belongs
  · exact fun _ h => absurd h List.not_mem_nil
  · exact waiting.answer live _
  · exact ReplyChannel.senderGone_answer _ _

end Exchange

end HostedRepl.Bridge
