/-
Replies to requests to close a session.

The session of a request is found by the id that its text spells, while the
reply compares the text itself with the canonical one. The two agree unless a
registered id is spelled in another way, and then the session is closed while
the reply calls it unknown.

* `Registry.render_resolve_iff`: which texts are the canonical text of the
  session they are resolved to.
* `answerTo_close`: what comes of a request to close a session.
* `status_close`: **what the reply says and which session is closed**.
* `braced_unknown`: a session in braces is closed and called unknown.
-/
import Mathlib.Tactic
import HostedRepl.Bridge.Dispatch
import HostedRepl.Proofs.Session.Id
import HostedRepl.Proofs.Session.Ownership
import HostedRepl.Proofs.Wire.Message

namespace HostedRepl

/-! ### The session of a text -/

namespace Registry

variable {r : Registry} {text : String}

/-- **A text is the canonical text of its session** just if it is that of a registered id, or of a
new one that was drawn for it. -/
lemma render_resolve_iff (o : Owned) :
    text = (r.resolve o (some text)).1.render ↔
      (∃ id ∈ r.ids, text = id.render) ∨
        (r.resolve o (some text)).1 ∉ r.ids ∧ text = (r.create .connection).1.render := by
  constructor
  · intro same
    by_cases registered : (r.resolve o (some text)).1 ∈ r.ids
    · exact .inl ⟨_, registered, same⟩
    · exact .inr ⟨registered, resolve_of_not_mem registered ▸ same⟩
  · rintro (⟨id, registered, rfl⟩ | ⟨new, same⟩)
    · rw [resolve_of_spelling (SessionId.parse?_render id) registered]
    · exact (resolve_of_not_mem new).symm ▸ same

end Registry

/-! ### The reply -/

namespace Bridge

open Wire (Request Response Status)

variable {σ : Type}

/-- The reply to a request to close a session, which says whether the session was known. -/
def closeReply (session : SessionId) (request : Request) : Response :=
  let known := match request.session with
    | some s => s == session.render
    | none => true
  (Response.reply request.id (some session.render)).withStatus
    (if known then [.done, .sessionClosed] else [.error, .unknownSession, .done])

/-- **What comes of a request to close a session**: the session leaves the registry, the evaluator
is asked to close it, and unless that panics one reply is given. -/
lemma answerTo_close (ev : Evaluator σ) (r : Registry) (x : σ) (session : SessionId)
    {request : Request} (closes : request.op = some "close") :
    answerTo ev r x session request =
      match ev.close session x with
      | .ok _ x' => ([closeReply session request], none, r.remove session, x')
      | .error p x' => ([], some p, r.remove session, x') := by
  have operation : Operation.ofName? "close" = some .close := by decide
  have dispatched : dispatch ev session request =
      perform ev session request (.reply request.id (some session.render)) .close := by
    simp only [dispatch, closes, operation]
  have performed : perform ev session request (.reply request.id (some session.render)) .close
      ⟨r, x, []⟩ = (ask (ev.close session) >>= fun _ => emit (closeReply session request))
        ⟨r.remove session, x, []⟩ := rfl
  rw [answerTo, dispatched, performed]
  simp only [Bind.bind, EStateM.bind, ask]
  cases ev.close session x <;> rfl

lemma status_closeReply (session : SessionId) {request : Request} {text : String}
    (named : request.session = some text) :
    (closeReply session request).status =
      if text = session.render then ["done", "session-closed"]
      else ["error", "unknown-session", "done"] := by
  rw [closeReply, named, Response.status_withStatus]
  by_cases same : text = session.render
  · simp [same, Status.text]
  · simp [same, Status.text]

/-- **What the reply says and which session is closed.** The session that a text is resolved to
leaves the registry, which may have changed since, and unless the evaluator panics there is one
reply. It says that the session is closed if the text is the canonical text of that session, and
that it is unknown otherwise. If the text spells a registered id in any way, then that is the
session; so it is called unknown just if it was spelled in another way than the canonical one. A
text that spells no registered id is called unknown, unless it is the canonical text of the id that
has just been drawn for it. -/
theorem status_close (ev : Evaluator σ) (r : Registry) (o : Owned) {request : Request}
    {text : String} (closes : request.op = some "close") (named : request.session = some text)
    (r' : Registry) (x : σ) :
    let session := (r.resolve o (some text)).1
    let answer := answerTo ev r' x session request
    answer.2.2.1 = r'.remove session ∧
    (answer.2.1 = none → answer.1.map Response.status =
      [if text = session.render then ["done", "session-closed"]
        else ["error", "unknown-session", "done"]]) ∧
    (answer.2.1 ≠ none → answer.1 = []) ∧
    (text = session.render ↔ (∃ id ∈ r.ids, text = id.render) ∨
      session ∉ r.ids ∧ text = (r.create .connection).1.render) ∧
    ∀ id ∈ r.ids, SessionId.parse? text = some id → session = id := by
  intro session answer
  have spelled : ∀ id ∈ r.ids, SessionId.parse? text = some id → session = id := by
    intro id registered spells
    exact congrArg Prod.fst (Registry.resolve_of_spelling spells registered o)
  have answered : answer = _ := answerTo_close ev r' x session closes
  rw [answered]
  cases ev.close session x with
  | ok _ x' =>
      refine ⟨rfl, fun _ => ?_, fun panicked => absurd rfl panicked,
        Registry.render_resolve_iff o, spelled⟩
      rw [List.map_singleton, status_closeReply session named]
  | error p x' =>
      exact ⟨rfl, fun calm => absurd calm (Option.some_ne_none p), fun _ => rfl,
        Registry.render_resolve_iff o, spelled⟩

/-- A registered session that is named by its canonical text is closed, and the reply says so. -/
theorem status_close_canonical :
    let r := ((Registry.empty (SessionId.numbered 0)).create .cloned).2
    let text := "00000000-0000-4000-8000-000000000000"
    let request := (Request.forOp "close").inSession text
    let answer := answerTo .ofRuntime r .start (r.resolve .none (some text)).1 request
    request.op = some "close" ∧ request.session = some text ∧
      answer.1.map Response.status = [["done", "session-closed"]] ∧ answer.2.2.1.ids = [] := by
  intro r text request answer
  have closes : request.op = some "close" := by decide +kernel
  have named : request.session = some text := by decide +kernel
  have same : text = (r.resolve .none (some text)).1.render := by decide +kernel
  obtain ⟨removed, said, -⟩ := status_close .ofRuntime r .none closes named r .start
  refine ⟨closes, named, ?_, ?_⟩
  · rw [said rfl, if_pos same]
  · rw [removed]
    decide +kernel

/-- **A registered session that is named in braces** is closed as well, and the reply calls it
unknown. -/
theorem braced_unknown :
    let r := ((Registry.empty (SessionId.numbered 0)).create .cloned).2
    let text := "\x7b00000000-0000-4000-8000-000000000000\x7d"
    let request := (Request.forOp "close").inSession text
    let session := (r.resolve .none (some text)).1
    let answer := answerTo .ofRuntime r .start session request
    request.op = some "close" ∧ request.session = some text ∧
      SessionId.parse? text = some session ∧ session ∈ r.ids ∧
      answer.1.map Response.status = [["error", "unknown-session", "done"]] ∧
      session ∉ answer.2.2.1.ids := by
  decide +kernel

end Bridge

end HostedRepl
