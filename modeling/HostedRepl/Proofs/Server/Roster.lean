/-
The connections of a server that serves.

Connections are numbered in the order they come, and each waits for a ticket
that has been given out. Whatever clients do and however often the host ticks,
this stays so, and the server takes connections and requests until it is
stopped.

* `Server.Event`, `run`: what happens to a server while it serves.
* `Server.Roster`: the numbers of the connections and their tickets;
  `roster_serve`, `roster_tick`: **clients and ticks keep it**.
* `Server.Serving`: a server that serves; `serving_run`: **it goes on serving**.
-/
import Mathlib.Tactic
import HostedRepl.Proofs.Bridge.Pump
import HostedRepl.Proofs.Server.Moves

namespace HostedRepl

open Bridge Wire

variable {σ : Type}

namespace Server

/-! ### What happens to a server -/

/-- A client does something, or the host ticks. -/
inductive Event where
  | client (t : Traffic)
  | tick

/-- The server after an event. -/
def happen (ev : Evaluator σ) (s : Server σ) : Event → Server σ
  | .client t => s.serve t
  | .tick => (s.tick ev).2

/-- The server after events in a row. -/
def run (ev : Evaluator σ) (s : Server σ) (es : List Event) : Server σ := es.foldl (happen ev) s

/-! ### The roster -/

/-- Connections have their places for numbers, and wait for tickets that have been given out. -/
structure Roster (s : Server σ) : Prop where
  ids : s.connections.map Connection.id = List.range s.connections.length
  waits : ∀ c ∈ s.connections, ∀ t ∈ c.waiting, t < s.exchange.nextTicket

variable {s : Server σ} {c : Connection}

/-- The connection that is put in keeps the number of the one it replaces. -/
lemma ids_put (s : Server σ) (c : Connection) :
    (s.put c).connections.map Connection.id = s.connections.map Connection.id := by
  rw [put, List.map_map]
  refine List.map_congr_left fun old _ => ?_
  rw [Function.comp_apply]
  split
  · next same => exact same.symm
  · rfl

lemma mem_put {c' : Connection} (mem : c' ∈ (s.put c).connections) :
    c' = c ∨ c' ∈ s.connections := by
  obtain ⟨old, there, rfl⟩ := List.mem_map.mp mem
  split
  · exact .inl rfl
  · exact .inr there

namespace Roster

/-- More tickets are given out. -/
lemma exchange (h : Roster s) {b : Exchange σ} (le : s.exchange.nextTicket ≤ b.nextTicket) :
    Roster { s with exchange := b } :=
  ⟨h.ids, fun c mem t waits => (h.waits c mem t waits).trans_le le⟩

lemma registry (h : Roster s) (registry : Registry) :
    Roster { s with exchange := { s.exchange with registry } } := h.exchange (Nat.le_refl _)

lemma put (h : Roster s) (waits : ∀ t ∈ c.waiting, t < s.exchange.nextTicket) :
    Roster (s.put c) where
  ids := by
    have length := congrArg List.length (ids_put s c)
    rw [List.length_map, List.length_map] at length
    rw [ids_put, h.ids, length]
  waits c' mem := by
    rcases mem_put mem with rfl | mem
    · exact waits
    · exact h.waits c' mem

lemma close (h : Roster s) (c : Connection) : Roster (s.close c) := by
  have gone : Roster (s.put { c with isOpen := false, waiting := none, owned := .none }) :=
    h.put fun t waits => absurd waits (Option.not_mem_none t)
  exact ⟨gone.ids, gone.waits⟩

/-- A connection gets the next ticket, or ends. -/
lemma offer (h : Roster s) (c : Connection) (session : SessionId) (request : Request) :
    Roster (s.offer c session request) := by
  by_cases closed : s.exchange.queue.closed = true
  · rw [Server.offer, Exchange.push_of_closed closed]
    exact (h.exchange (Nat.le_succ _)).close _
  · rw [Server.offer, Exchange.push_of_open (Bool.eq_false_iff.mpr closed)]
    refine (h.exchange (Nat.le_succ _)).put fun t waits => ?_
    cases waits
    exact Nat.lt_succ_self _

lemma serveNext (h : Roster s) (waits : ∀ t ∈ c.waiting, t < s.exchange.nextTicket) :
    Roster (s.serveNext c) := by
  by_cases served : c.isOpen = true ∧ c.waiting = none
  · obtain ⟨isOpen, idle⟩ := served
    cases next : c.next? with
    | none =>
        rw [Server.serveNext, isOpen, idle, next]
        exact h.put waits
    | some result =>
        cases result with
        | error fault =>
            rw [Server.serveNext, isOpen, idle, next]
            exact h.close c
        | ok frame =>
            rw [serveNext_eq_offer s isOpen idle next]
            exact (h.registry _).offer _ _ _
  · rw [serveNext_of_not served]
    exact h.put waits

lemma mem_connections {id : Nat} (found : s.connection? id = some c) : c ∈ s.connections :=
  List.mem_of_find?_eq_some found

lemma onConnection (h : Roster s) (id : Nat) {f : Connection → Connection}
    (same : ∀ c, (f c).waiting = c.waiting) : Roster (s.onConnection id f) := by
  rw [Server.onConnection]
  split
  · next c found =>
    refine h.serveNext fun t waits => ?_
    rw [same] at waits
    exact h.waits c (mem_connections found) t waits
  · exact h

lemma accept (h : Roster s) : Roster s.accept.2 := by
  rw [Server.accept]
  split
  · exact h
  · refine ⟨?_, fun c mem t waits => ?_⟩
    · dsimp only
      rw [List.map_append, h.ids, List.length_append, List.map_singleton, List.length_singleton,
        List.range_succ]
    · rcases List.mem_append.mp mem with mem | mem
      · exact h.waits c mem t waits
      · rw [List.mem_singleton.mp mem] at waits
        exact absurd waits (Option.not_mem_none t)

lemma hangUp (h : Roster s) (id : Nat) : Roster (s.hangUp id) := by
  rw [Server.hangUp]
  split
  · exact h
  · next c _ =>
    dsimp only
    split
    · exact (h.close c).exchange (Nat.le_refl _)
    · exact h.close c

lemma deliver (h : Roster s) (item : WorkItem) : Roster (s.deliver item) := by
  rw [Server.deliver]
  split
  · exact h
  · dsimp only
    split
    · exact h.serveNext fun t waits => absurd waits (Option.not_mem_none t)
    · exact h.close _

lemma foldl_deliver (h : Roster s) (items : List WorkItem) : Roster (items.foldl Server.deliver s) := by
  induction items generalizing s with
  | nil => exact h
  | cons item items ih => exact ih (h.deliver item)

end Roster

/-- **Clients keep the roster.** -/
theorem roster_serve (h : Roster s) (t : Traffic) : Roster (s.serve t) := by
  cases t with
  | accept => exact h.accept
  | receive id bytes =>
      refine h.onConnection id fun c => ?_
      split <;> rfl
  | endInput id => exact h.onConnection id fun c => rfl
  | hangUp id => exact h.hangUp id

variable (ev : Evaluator σ)

/-- **Ticks keep the roster.** -/
theorem roster_tick (h : Roster s) : Roster (s.tick ev).2 :=
  (h.exchange (Exchange.tick_queue ev s.exchange).2.ge).foldl_deliver _

/-! ### A server that serves -/

/-- The server runs, takes connections and requests, and keeps its roster. -/
structure Serving (s : Server σ) : Prop where
  running : s.exchange.running = true
  isOpen : s.exchange.queue.closed = false
  accepts : s.refusing = false
  roster : Roster s

lemma serving_start (endpoint : Endpoint) (host : String) (source : Nat → SessionId) (x : σ)
    (interval : Duration) (portFile : Option String) :
    Serving (start endpoint host (Exchange.start source x interval) portFile) where
  running := rfl
  isOpen := rfl
  accepts := rfl
  roster := ⟨rfl, fun _ mem => absurd mem List.not_mem_nil⟩

namespace Serving

variable {ev}

lemma onward {s' : Server σ} (h : Serving s) (on : Onward s s') (roster : Roster s') :
    Serving s' where
  running := on.steady.running.trans h.running
  isOpen := on.queue.closed.trans h.isOpen
  accepts := on.refusing.trans h.accepts
  roster := roster

lemma happen (h : Serving s) (e : Event) : Serving (s.happen ev e) := by
  cases e with
  | client t => exact h.onward (onward_serve s t) (roster_serve h.roster t)
  | tick =>
      obtain ⟨closed, ticket⟩ := s.exchange.tick_queue ev
      have ticked : Serving { s with exchange := (s.exchange.tick ev).2.2 } :=
        ⟨(Exchange.running_tick ev _).trans h.running, closed.trans h.isOpen, h.accepts,
          h.roster.exchange ticket.ge⟩
      exact ticked.onward (onward_foldl_deliver _ _) (roster_tick ev h.roster)

end Serving

/-- **A server goes on serving**, whatever clients do and however often the host ticks. -/
theorem serving_run (h : Serving s) (es : List Event) : Serving (s.run ev es) := by
  induction es generalizing s with
  | nil => exact h
  | cons e es ih => exact ih (h.happen e)

end Server

end HostedRepl
