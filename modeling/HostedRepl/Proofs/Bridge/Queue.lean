/-
Work items in transit.

Every accepted work item leaves the queue once, in the order in which the
items came, whoever takes it: a pump, the host outside a pump, or the closing
of the queue.

* `WorkItem.ident`: an item apart from the state of its channel.
* `Event.accepted`, `Event.removed`: the items that a step puts in the queue
  and takes out of it.
* `Turn`, `Site.act_turn`: what a step can do to the queue.
* `Exchange.push_frame`: what a push leaves alone.
* `Site.run_order`: **first in, first out**, without loss.
* `Site.run_tickets`: no ticket is used twice.
* `Site.run_closed`: a closed queue is empty and stays closed.
-/
import Mathlib.Tactic
import HostedRepl.Proofs.Bridge.Site

namespace HostedRepl.Bridge

open Wire (Request)

/-- What stays the same of an item: its ticket, which stands for its channel, its session and its
request. -/
def WorkItem.ident (item : WorkItem) : Nat × SessionId × Request :=
  (item.ticket, item.session, item.request)

lemma WorkItem.ident_onChannel (item : WorkItem) (ticket : Nat)
    (f : ReplyChannel → ReplyChannel) : (item.onChannel ticket f).ident = item.ident := by
  rw [WorkItem.onChannel]
  split <;> rfl

namespace Event

/-- The item that the queue kept. -/
def accepted : Event → List WorkItem
  | .pushed _ (.ok item) => [item]
  | _ => []

/-- The items that left the queue. -/
def removed : Event → List WorkItem
  | .taken items => items
  | .drained items => items
  | .cancelled items _ => items
  | _ => []

/-- An item was pushed. -/
def pushes : Event → Bool
  | .pushed _ _ => true
  | _ => false

/-- The queue was closed. -/
def closes : Event → Bool
  | .cancelled _ _ => true
  | _ => false

end Event

/-- One of the two ways to give up. -/
def GivesUp (f : ReplyChannel → ReplyChannel) : Prop :=
  f = ReplyChannel.abandon ∨ f = ReplyChannel.hangUp

/-! ### The queue -/

/-- What a step can do to the queue and the next ticket. -/
inductive Turn (q : WorkQueue) (ticket : Nat) : Event → WorkQueue → Nat → Prop where
  /-- Nothing. -/
  | none {e : Event} : e.accepted = [] → e.removed = [] → e.closes = false →
      e.pushes = false → Turn q ticket e q ticket
  /-- The receiver of the answer to an item gives up. -/
  | touched (t : Nat) {f : ReplyChannel → ReplyChannel} : GivesUp f →
      Turn q ticket .quiet (q.onChannel t f) ticket
  | accepted {item : WorkItem} : q.closed = false → item.ticket = ticket → item.channel = .fresh →
      Turn q ticket (.pushed item (.ok item)) { q with items := q.items ++ [item] } (ticket + 1)
  | refused {item : WorkItem} : q.closed = true →
      Turn q ticket (.pushed item (.error item)) q (ticket + 1)
  | taken : Turn q ticket (.taken q.items) { q with items := [] } ticket
  | drained : Turn q ticket (.drained q.items) { q with items := [] } ticket
  | cancelled (settled : List WorkItem) :
      Turn q ticket (.cancelled q.items settled) ⟨[], true⟩ ticket

namespace Turn

variable {q q' : WorkQueue} {ticket ticket' : Nat} {e : Event}

lemma quiet : Turn q ticket .quiet q ticket := .none rfl rfl rfl rfl

/-- The items of the queue and the one that comes are those that leave and those that stay. -/
lemma order (turn : Turn q ticket e q' ticket') :
    (q.items ++ e.accepted).map WorkItem.ident = (e.removed ++ q'.items).map WorkItem.ident := by
  cases turn with
  | none accepted removed _ _ => rw [accepted, removed, List.append_nil, List.nil_append]
  | touched t _ =>
      simp [Event.accepted, Event.removed, WorkQueue.onChannel, Function.comp_def,
        WorkItem.ident_onChannel]
  | accepted _ _ _ => rfl
  | refused _ => simp [Event.accepted, Event.removed]
  | taken => rfl
  | drained => rfl
  | cancelled _ => rfl

/-- An item that comes has the next ticket. -/
lemma tickets (turn : Turn q ticket e q' ticket') :
    e.accepted = [] ∧ ticket ≤ ticket' ∨
      ∃ item, e.accepted = [item] ∧ item.ticket = ticket ∧ ticket' = ticket + 1 := by
  cases turn with
  | none accepted _ _ _ => exact .inl ⟨accepted, le_refl _⟩
  | touched _ _ => exact .inl ⟨rfl, le_refl _⟩
  | accepted _ eq _ => exact .inr ⟨_, rfl, eq, rfl⟩
  | refused _ => exact .inl ⟨rfl, Nat.le_succ _⟩
  | taken => exact .inl ⟨rfl, le_refl _⟩
  | drained => exact .inl ⟨rfl, le_refl _⟩
  | cancelled _ => exact .inl ⟨rfl, le_refl _⟩

lemma closed (turn : Turn q ticket e q' ticket') : q'.closed = (q.closed || e.closes) := by
  cases turn with
  | none _ _ closes _ => rw [closes, Bool.or_false]
  | touched _ _ => simp [WorkQueue.onChannel, Event.closes]
  | accepted _ _ _ => simp [Event.closes]
  | refused _ => simp [Event.closes]
  | taken => simp [Event.closes]
  | drained => simp [Event.closes]
  | cancelled _ => simp [Event.closes]

/-- Nothing comes into a closed queue. -/
lemma empty (turn : Turn q ticket e q' ticket') (h : q.closed = true → q.items = [])
    (closed : q'.closed = true) : q'.items = [] := by
  cases turn with
  | none _ _ _ _ => exact h closed
  | touched _ _ =>
      rw [WorkQueue.onChannel, h closed]
      rfl
  | accepted isOpen _ _ => simp [isOpen] at closed
  | refused _ => exact h closed
  | taken => rfl
  | drained => rfl
  | cancelled _ => rfl

/-- The queue hands an item back just if it is closed, and as it is. -/
lemma answer (turn : Turn q ticket e q' ticket') {item : WorkItem}
    {answer : Except WorkItem WorkItem} (h : e = .pushed item answer) :
    answer = if q.closed then .error item else .ok item := by
  cases turn with
  | none _ _ _ other => subst h; cases other
  | accepted isOpen _ _ => cases h; rw [isOpen]; rfl
  | refused closed => cases h; rw [closed]; rfl
  | touched _ _ => cases h
  | taken => cases h
  | drained => cases h
  | cancelled _ => cases h

end Turn

namespace Exchange

variable {σ : Type} {ev : Evaluator σ}

/-- A push changes only the queue and the next ticket. -/
lemma push_frame (b : Exchange σ) (session : SessionId) (request : Request) :
    (b.push session request).2 =
      { b with queue := (b.push session request).2.queue, nextTicket := b.nextTicket + 1 } := by
  rw [push]
  cases b.queue.push (b.item session request) <;> rfl

/-- An open queue takes the item. -/
lemma push_of_open {b : Exchange σ} (isOpen : b.queue.closed = false) (session : SessionId)
    (request : Request) :
    b.push session request =
      (.ok (b.item session request), { b with
        queue := { b.queue with items := b.queue.items ++ [b.item session request] }
        nextTicket := b.nextTicket + 1 }) := by
  rw [push, WorkQueue.push, if_neg (by simp [isOpen])]

/-- A closed queue hands it back. -/
lemma push_of_closed {b : Exchange σ} (closed : b.queue.closed = true) (session : SessionId)
    (request : Request) :
    b.push session request =
      (.error (b.item session request), { b with nextTicket := b.nextTicket + 1 }) := by
  rw [push, WorkQueue.push, if_pos closed]

/-- A push either puts the item at the end or hands it back. -/
lemma turn_push (b : Exchange σ) (session : SessionId) (request : Request) :
    Turn b.queue b.nextTicket (.pushed (b.item session request) (b.push session request).1)
      (b.push session request).2.queue (b.push session request).2.nextTicket := by
  by_cases h : b.queue.closed = true
  · rw [push_of_closed h]
    exact .refused h
  · have isOpen : b.queue.closed = false := Bool.eq_false_iff.mpr h
    rw [push_of_open isOpen]
    exact .accepted isOpen rfl rfl

variable (ev) in
/-- Processing an item leaves the queue alone. -/
lemma process_queue (b : Exchange σ) (item : WorkItem) :
    (b.process ev item).2.2.queue = b.queue ∧
      (b.process ev item).2.2.nextTicket = b.nextTicket := by
  rw [process]
  split <;> exact ⟨rfl, rfl⟩

end Exchange

namespace Site

variable {σ : Type} {ev : Evaluator σ}

/-- What a step of a pump does to the queue. -/
lemma Work.turn {b : Exchange σ} {owned : Nat → Owned} {host : Host} {e : Event} {s : Site σ}
    (work : Work ev b owned host e s) :
    Turn b.queue b.nextTicket e s.exchange.queue s.exchange.nextTicket := by
  cases work with
  | idle => exact .quiet
  | closed _ => exact .quiet
  | panicked _ => exact .none rfl rfl rfl rfl
  | taken => exact .taken
  | @settled answered item items =>
      obtain ⟨queue, nextTicket⟩ := b.process_queue ev item
      rw [queue, nextTicket]
      exact .none rfl rfl rfl rfl
  | returned => exact .none rfl rfl rfl rfl

variable (ev) in
/-- **What a step does to the queue.** -/
theorem act_turn (s : Site σ) (a : Action) :
    Turn s.exchange.queue s.exchange.nextTicket (s.act ev a).1 (s.act ev a).2.exchange.queue
      (s.act ev a).2.exchange.nextTicket := by
  cases a with
  | resolve conn requested => exact .quiet
  | push session request => exact s.exchange.turn_push session request
  | send conn request =>
      rw [act_send]
      exact (s.act ev (.resolve conn request.session)).2.exchange.turn_push _ request
  | disconnect conn => exact .quiet
  | abandon ticket => exact .touched ticket (.inl rfl)
  | hangUp ticket => exact .touched ticket (.inr rfl)
  | pump => rw [act]; split <;> exact .quiet
  | tick => rw [act]; split <;> [split; skip] <;> exact .quiet
  | work => exact (work_sound ev s).turn
  | drain =>
      rw [act]
      split
      · exact .drained
      · exact .quiet
  | cancel reason => exact .cancelled _
  | halt => exact .quiet

/-! ### Runs -/

variable (ev) (source : Nat → SessionId) (x : σ) (interval : Duration) (as : List Action)

/-- **First in, first out**: what was accepted is what has left the queue, followed by what is
still in it. -/
theorem run_order :
    let r := (start source x interval).run ev as
    (r.1.flatMap Event.removed ++ r.2.exchange.queue.items).map WorkItem.ident =
      (r.1.flatMap Event.accepted).map WorkItem.ident := by
  refine run_invariant (P := fun es s =>
    (es.flatMap Event.removed ++ s.exchange.queue.items).map WorkItem.ident =
      (es.flatMap Event.accepted).map WorkItem.ident) rfl (fun es s a ih => ?_) as
  have step := (act_turn ev s a).order
  simp only [List.flatMap_append, List.flatMap_singleton, List.map_append] at ih step ⊢
  rw [← ih, List.append_assoc, List.append_assoc, step]

/-- No ticket is used twice. -/
theorem run_tickets :
    let r := (start source x interval).run ev as
    ((r.1.flatMap Event.accepted).map WorkItem.ticket).Pairwise (· < ·) ∧
      ∀ t ∈ (r.1.flatMap Event.accepted).map WorkItem.ticket, t < r.2.exchange.nextTicket := by
  refine run_invariant (P := fun es s =>
    ((es.flatMap Event.accepted).map WorkItem.ticket).Pairwise (· < ·) ∧
      ∀ t ∈ (es.flatMap Event.accepted).map WorkItem.ticket, t < s.exchange.nextTicket)
    ⟨List.Pairwise.nil, fun _ h => absurd h List.not_mem_nil⟩ (fun es s a ih => ?_) as
  obtain ⟨ascending, below⟩ := ih
  simp only [List.flatMap_append, List.flatMap_singleton, List.map_append]
  rcases (act_turn ev s a).tickets with ⟨none, le⟩ | ⟨item, one, ticket, next⟩
  · rw [none, List.map_nil, List.append_nil]
    exact ⟨ascending, fun t ht => Nat.lt_of_lt_of_le (below t ht) le⟩
  · rw [one, List.map_singleton, ticket, next]
    refine ⟨List.pairwise_append.mpr ⟨ascending, List.pairwise_singleton _ _, ?_⟩, ?_⟩
    · intro t ht t' ht'
      rw [List.mem_singleton.mp ht']
      exact below t ht
    · intro t ht
      rcases List.mem_append.mp ht with ht | ht
      · exact Nat.lt_succ_of_lt (below t ht)
      · rw [List.mem_singleton.mp ht]
        exact Nat.lt_succ_self _

/-- The queue is closed just if it was closed in a step before, and then it is empty. -/
theorem run_closed :
    let r := (start source x interval).run ev as
    r.2.exchange.queue.closed = r.1.any Event.closes ∧
      (r.2.exchange.queue.closed = true → r.2.exchange.queue.items = []) := by
  refine run_invariant (P := fun es s => s.exchange.queue.closed = es.any Event.closes ∧
    (s.exchange.queue.closed = true → s.exchange.queue.items = []))
    ⟨rfl, fun _ => rfl⟩ (fun es s a ih => ?_) as
  have turn := act_turn ev s a
  refine ⟨?_, turn.empty ih.2⟩
  rw [turn.closed, ih.1]
  simp

end Site

end HostedRepl.Bridge
