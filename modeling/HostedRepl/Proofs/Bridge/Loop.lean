/-
Requests answered one after another.

The plainest way to serve a connection is a loop: find the session of a
request, answer it, write the responses, and go on to the next request. An
exchange with nothing else to do stands where this loop stands, but for retired
sessions that it has yet to close.

* `Loop`, `Loop.serveAll`: the loop and what it does to requests in a row.
* `Registry.resolve_takeRetired`, `sessions_retireConnection`: retired sessions
  do not bear on which session a request has, nor on which ones leave the
  registry.
* `Exchange.Follows`: the exchange stands where the loop stands;
  `Follows.resolve`, `Follows.answer`: **it goes along with the loop**.
-/
import Mathlib.Tactic
import HostedRepl.Proofs.Bridge.Answer
import HostedRepl.Proofs.Bridge.Pump
import HostedRepl.Proofs.Bridge.Queue
import HostedRepl.Proofs.Session.Ownership

namespace HostedRepl

/-! ### Registries -/

namespace Registry

/-- The sessions that are retired do not bear on the session of a request. -/
lemma resolve_takeRetired (r : Registry) (o : Owned) (requested : Option String) :
    r.takeRetired.2.resolve o requested =
      ((r.resolve o requested).1, (r.resolve o requested).2.1.takeRetired.2,
        (r.resolve o requested).2.2) := by
  have byDefault : r.takeRetired.2.resolveDefault o = ((r.resolveDefault o).1,
      (r.resolveDefault o).2.1.takeRetired.2, (r.resolveDefault o).2.2) := by
    have same : r.takeRetired.2.contains = r.contains := rfl
    rw [resolveDefault, resolveDefault, same]
    cases o.default.filter r.contains <;> rfl
  have byText (text : String) : r.takeRetired.2.resolveUnknown o text =
      ((r.resolveUnknown o text).1, (r.resolveUnknown o text).2.1.takeRetired.2,
        (r.resolveUnknown o text).2.2) := by
    have same : r.takeRetired.2.contains = r.contains := rfl
    rw [resolveUnknown, resolveUnknown, same]
    cases (o.standIns.find? text).filter r.contains <;> rfl
  cases requested with
  | none => exact byDefault
  | some text =>
      have same : r.takeRetired.2.contains = r.contains := rfl
      rw [resolve, resolve, same]
      cases (SessionId.parse? text).filter r.contains with
      | none => exact byText text
      | some id => rfl

lemma retired_resolve (r : Registry) (o : Owned) (requested : Option String) :
    (r.resolve o requested).2.1.retired = r.retired := (resolve_sound r o requested).retired

/-- The sessions of a connection that ends leave the registry, as far as they are in it. -/
lemma sessions_retireConnection (r : Registry) (o : Owned) :
    (r.retireConnection o).sessions = r.sessions.filter fun s => s.id ∉ o.ids := by
  have one (r : Registry) (id : SessionId) :
      (r.retire id).sessions = r.sessions.filter fun s => s.id ≠ id := by
    rw [retire]
    split
    · refine List.filter_congr fun s _ => ?_
      by_cases same : s.id = id <;> simp [same]
    · next absent =>
      refine (List.filter_eq_self.mpr fun s mem => decide_eq_true ?_).symm
      rintro rfl
      exact absent (contains_iff.mpr (List.mem_map_of_mem mem))
  rw [retireConnection]
  generalize o.ids = ids
  induction ids generalizing r with
  | nil => simp
  | cons id ids ih =>
      rw [List.foldl_cons, ih, one, List.filter_filter]
      refine List.filter_congr fun s _ => ?_
      simp [Bool.and_comm]

end Registry

/-! ### The loop -/

namespace Bridge

open Wire (Bytes Request Response)

variable {σ : Type}

/-- The state in which the requests of one connection are answered one after another. -/
structure Loop (σ : Type) where
  registry : Registry
  evaluator : σ
  /-- The sessions the connection made. -/
  owned : Owned
  /-- The bytes written. -/
  output : Bytes

namespace Loop

/-- The session of a request. -/
def session (l : Loop σ) (request : Request) : SessionId :=
  (l.registry.resolve l.owned request.session).1

/-- The session of a request is found, or made. -/
def resolve (l : Loop σ) (request : Request) : Loop σ :=
  { l with
    registry := (l.registry.resolve l.owned request.session).2.1
    owned := (l.registry.resolve l.owned request.session).2.2 }

variable (ev : Evaluator σ)

/-- A request is answered in a session, and the responses are written. If the evaluator panics, the
report of that is one of them. -/
def answer (l : Loop σ) (session : SessionId) (request : Request) : Loop σ :=
  let (frames, panic, registry, evaluator) :=
    answerTo ev (l.registry.noteOp session request.id) l.evaluator session request
  let responses := Exchange.completed ⟨0, session, request, .fresh⟩ frames panic
  { l with
    registry
    evaluator
    output := l.output ++ responses.flatMap fun r => r.toValue.encode }

/-- One turn of the loop. -/
def serve (l : Loop σ) (request : Request) : Loop σ :=
  (l.resolve request).answer ev (l.session request) request

/-- The loop, over requests in a row. -/
def serveAll (l : Loop σ) (requests : List Request) : Loop σ := requests.foldl (serve ev) l

lemma serveAll_concat (l : Loop σ) (requests : List Request) (request : Request) :
    l.serveAll ev (requests ++ [request]) = (l.serveAll ev requests).serve ev request := by
  rw [serveAll, List.foldl_append]
  rfl

end Loop

/-! ### Exchanges -/

namespace Exchange

/-- The exchange stands where the loop stands, once it has closed the retired sessions. -/
structure Follows (ev : Evaluator σ) (b : Exchange σ) (l : Loop σ) : Prop where
  registry : (b.closed ev).registry = l.registry
  evaluator : (b.closed ev).evaluator = l.evaluator

variable {ev : Evaluator σ} {b : Exchange σ} {l : Loop σ}

namespace Follows

/-- Sessions are closed, and another tick is counted. -/
lemma ticked (h : Follows ev b l) : Follows ev (b.closed ev).ticked l :=
  ⟨h.registry, h.evaluator⟩

/-- A registered session is one whether or not others have yet to be closed. -/
lemma sessions (h : Follows ev b l) : b.registry.sessions = l.registry.sessions := by
  show (b.closed ev).registry.sessions = _
  rw [h.registry]

/-- A request finds the same session, and the exchange goes along with the loop. -/
lemma resolve (h : Follows ev b l) (request : Request) :
    let resolved := b.registry.resolve l.owned request.session
    resolved.1 = l.session request ∧ resolved.2.2 = (l.resolve request).owned ∧
      Follows ev { b with registry := resolved.2.1 } (l.resolve request) := by
  intro resolved
  have same := b.registry.resolve_takeRetired l.owned request.session
  have here : b.registry.takeRetired.2 = l.registry := h.registry
  have retired : resolved.2.1.retired = b.registry.retired := b.registry.retired_resolve _ _
  rw [here] at same
  refine ⟨?_, ?_, ?_, ?_⟩
  · rw [Loop.session, same]
  · rw [Loop.resolve, same]
  · rw [Loop.resolve, same]
    rfl
  · show (closeAll ev resolved.2.1.retired b.evaluator).2 = l.evaluator
    rw [retired]
    exact h.evaluator

/-- **A request that comes in** waits in the session in which the loop answers it. -/
lemma send (h : Follows ev b l) (isOpen : b.queue.closed = false) (request : Request) :
    let item : WorkItem := ⟨b.nextTicket, l.session request, request, .fresh⟩
    ∃ b' : Exchange σ, b.send l.owned request = (.ok item, (l.resolve request).owned, b') ∧
      Follows ev b' (l.resolve request) ∧
      b'.queue.items = b.queue.items ++ [item] ∧ b'.queue.closed = b.queue.closed ∧
      b'.nextTicket = b.nextTicket + 1 ∧ b'.running = b.running ∧
      b'.registry.retired = b.registry.retired := by
  intro item
  have retired := b.registry.retired_resolve l.owned request.session
  obtain ⟨session, owned, follows⟩ := h.resolve request
  rw [Exchange.send]
  generalize b.registry.resolve l.owned request.session = resolved at *
  obtain ⟨id, registry, o⟩ := resolved
  cases session
  cases owned
  dsimp only
  rw [push_of_open (by exact isOpen)]
  exact ⟨_, rfl, ⟨follows.registry, follows.evaluator⟩, rfl, rfl, rfl, rfl, retired⟩

/-- **A request that waits alone** is answered as the loop answers it, and the answer is what the
loop writes. -/
lemma answer (h : Follows ev b l) {item : WorkItem} (only : b.queue.items = [item])
    (fresh : item.channel = .fresh) :
    let answered := answerAll ev (b.closed ev).ticked
    ∃ (after : WorkItem) (responses : List Response),
      answered.1 = [after] ∧ after.ticket = item.ticket ∧
        after.channel.pending = responses.map .frame ++ [.finished] ∧
        (l.answer ev item.session item.request).output =
          l.output ++ responses.flatMap (fun r => r.toValue.encode) ∧
        Follows ev answered.2 (l.answer ev item.session item.request) := by
  intro answered
  have settled : answered.2.registry.retired = [] := retired_answerAll ev _
  have here : answered.2.closed ev = answered.2 := (closed_of_retired settled).2
  have one : answered = _ := answerAll_of_singleton ev (b.closed ev).ticked only
  have live : item.channel.abandoned = false := by rw [fresh]; rfl
  rw [process_of_live ev _ live] at one
  have registry : (b.closed ev).ticked.registry = l.registry := h.registry
  have evaluator : (b.closed ev).ticked.evaluator = l.evaluator := h.evaluator
  rw [registry, evaluator] at one
  obtain ⟨ticket, session, request, channel⟩ := item
  cases fresh
  refine ⟨_, _, congrArg Prod.fst one, rfl, ReplyChannel.pending_answer _ _ rfl rfl, rfl, ?_, ?_⟩
  · rw [here, one]
    rfl
  · rw [here, one]
    rfl

end Follows

end Exchange

end Bridge

end HostedRepl
