/-
What stays as a server serves.

Clients come, send and go, and the host's ticks answer them. Through all of it
a server keeps its endpoint and its place in the scheduler, and runs on until
it is stopped.

* `Traffic`, `Server.serve`: what a client does, and a server that is told.
* `Server.Steady`: two states of a server that agree in what stays.
* `Server.steady_serve`, `steady_tick`: **clients and ticks keep a server
  steady**.
* `Server.shutDown_stop`, `stop_of_shutDown`: a server is stopped once.
* `Server.tick_again`: a tick of a running server wants another one.
-/
import Mathlib.Tactic
import HostedRepl.Server.Connection

namespace HostedRepl

open Bridge Wire

variable {σ : Type}

/-! ### Exchanges -/

namespace Bridge.Exchange

lemma running_push (b : Exchange σ) (session : SessionId) (request : Request) :
    (b.push session request).2.running = b.running := by
  rw [push]
  dsimp only
  split <;> rfl

lemma running_send (b : Exchange σ) (o : Owned) (request : Request) :
    (b.send o request).2.2.running = b.running :=
  running_push _ _ _

variable (ev : Evaluator σ)

lemma running_process (b : Exchange σ) (item : WorkItem) :
    (b.process ev item).2.2.running = b.running := by
  rw [process]
  split <;> rfl

lemma running_processAll (answered : Nat) (b : Exchange σ) (items : List WorkItem) :
    (processAll ev answered b items).2.2.running = b.running := by
  induction items generalizing answered b with
  | nil => rfl
  | cons item items ih => exact (ih _ _).trans (running_process ev b item)

lemma running_pumpOnce (b : Exchange σ) : (b.pumpOnce ev).2.2.running = b.running := by
  rw [pumpOnce]
  dsimp only
  split
  · rfl
  · exact running_processAll ev _ _ _

lemma running_tick (b : Exchange σ) : (b.tick ev).2.2.running = b.running := by
  rw [tick]
  split
  · exact running_pumpOnce ev _
  · rfl

end Bridge.Exchange

/-! ### Servers -/

/-- What a client does. -/
inductive Traffic where
  | accept
  | receive (id : Nat) (bytes : Bytes)
  | endInput (id : Nat)
  | hangUp (id : Nat)

namespace Server

/-- A server is told what a client does. -/
def serve (s : Server σ) : Traffic → Server σ
  | .accept => s.accept.2
  | .receive id bytes => s.receive id bytes
  | .endInput id => s.endInput id
  | .hangUp id => s.hangUp id

/-- The server is where it was, keeps its place in the scheduler, runs if it ran, and has been
stopped if it had been. -/
structure Steady (s s' : Server σ) : Prop where
  endpoint : s'.endpoint = s.endpoint
  timer : s'.timer = s.timer
  running : s'.exchange.running = s.exchange.running
  shutDown : s'.shutDown = s.shutDown

namespace Steady

lemma refl (s : Server σ) : Steady s s := ⟨rfl, rfl, rfl, rfl⟩

lemma trans {s s' s'' : Server σ} (h : Steady s s') (h' : Steady s' s'') : Steady s s'' :=
  ⟨h'.endpoint.trans h.endpoint, h'.timer.trans h.timer, h'.running.trans h.running,
    h'.shutDown.trans h.shutDown⟩

end Steady

lemma steady_put (s : Server σ) (c : Connection) : Steady s (s.put c) := ⟨rfl, rfl, rfl, rfl⟩

lemma steady_close (s : Server σ) (c : Connection) : Steady s (s.close c) := ⟨rfl, rfl, rfl, rfl⟩

/-- A connection that goes on may put a request in the queue, or end. -/
lemma steady_serveNext (s : Server σ) (c : Connection) : Steady s (s.serveNext c) := by
  rw [serveNext]
  split
  · exact steady_put s c
  · split
    · exact steady_put s c
    · exact steady_close s c
    · next request rest _ =>
      have sent : Steady s { s with exchange := (s.exchange.send c.owned request).2.2 } :=
        ⟨rfl, rfl, Exchange.running_send _ _ _, rfl⟩
      dsimp only
      split
      · exact sent.trans (steady_put _ _)
      · exact sent.trans (steady_close _ _)

lemma steady_onConnection (s : Server σ) (id : Nat) (f : Connection → Connection) :
    Steady s (s.onConnection id f) := by
  rw [onConnection]
  split
  · exact steady_serveNext s _
  · exact .refl s

lemma steady_deliver (s : Server σ) (item : WorkItem) : Steady s (s.deliver item) := by
  rw [deliver]
  split
  · exact .refl s
  · dsimp only
    split
    · exact steady_serveNext s _
    · exact steady_close s _

lemma steady_foldl_deliver (s : Server σ) (items : List WorkItem) :
    Steady s (items.foldl deliver s) := by
  induction items generalizing s with
  | nil => exact .refl s
  | cons item items ih => exact (steady_deliver s item).trans (ih _)

variable (ev : Evaluator σ)

/-- **Ticks keep a server steady.** -/
theorem steady_tick (s : Server σ) : Steady s (s.tick ev).2 := by
  have ticked : Steady s { s with exchange := (s.exchange.tick ev).2.2 } :=
    ⟨rfl, rfl, Exchange.running_tick ev _, rfl⟩
  exact ticked.trans (steady_foldl_deliver _ _)

lemma steady_foldl_onConnection (s : Server σ) (ids : List Nat) (f : Connection → Connection) :
    Steady s (ids.foldl (fun s id => s.onConnection id f) s) := by
  induction ids generalizing s with
  | nil => exact .refl s
  | cons id ids ih => exact (steady_onConnection s id f).trans (ih _)

/-- A server that has been stopped is known to have been. -/
lemma shutDown_stop (s : Server σ) : s.stop.2.shutDown = true := by
  rw [stop]
  split
  · next down => exact down
  · rw [windUp]
    exact ((steady_foldl_deliver _ _).trans (steady_foldl_onConnection _ _ _)).shutDown

/-- A server is stopped once. -/
lemma stop_of_shutDown {s : Server σ} (down : s.shutDown = true) : s.stop = ([], s) := by
  rw [stop, if_pos down]

/-- A running server wants to tick again. -/
lemma tick_again {s : Server σ} (running : s.exchange.running = true) :
    ∃ after, (s.tick ev).1 = .again after := by
  rw [tick, Exchange.tick, if_pos running]
  exact ⟨_, rfl⟩

end Server

end HostedRepl
