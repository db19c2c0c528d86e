/-
A server at work.

Connections and the host act on an exchange in any order. What the host does
in a pump is not one step: others may act after each session that it closes
and after each item that it answers.

* `Host`: what the host is in the middle of.
* `Site`: an exchange with the sessions that each connection made, and the
  host.
* `Action`, `Event`, `Site.act`: one step, and what is seen of it.
* `Work`, `Site.work_sound`: what the next step of a pump can be.
* `Site.run`: steps in a row, and what is seen of them.
* `Site.run_invariant`: what holds at the start and is kept by every step
  holds after every run.
* `Site.run_pump`: a pump that nobody interrupts is `Exchange.pumpOnce`.
-/
import Mathlib.Tactic
import HostedRepl.Bridge.Exchange

namespace HostedRepl.Bridge

open Wire (Request)

/-! ### Steps -/

/-- What the host is in the middle of. -/
inductive Host where
  /-- No pump is under way. -/
  | idle
  /-- These retired sessions are closed first. -/
  | closing (ids : List SessionId)
  /-- These items are processed, after `answered` others that were answered. -/
  | answering (answered : Nat) (items : List WorkItem)

namespace Host

/-- The retired sessions that the pump has still to close. -/
def toClose : Host → List SessionId
  | .closing ids => ids
  | _ => []

/-- The items that the pump has still to process. -/
def inHand : Host → List WorkItem
  | .answering _ items => items
  | _ => []

/-- Change the channel of an item in hand. -/
def onChannel (ticket : Nat) (f : ReplyChannel → ReplyChannel) : Host → Host
  | .answering answered items =>
    .answering answered (items.map fun item => item.onChannel ticket f)
  | h => h

end Host

/-- What somebody does. -/
inductive Action where
  /-- A connection asks for the session of a request. -/
  | resolve (conn : Nat) (requested : Option String)
  /-- An item for a session is pushed. -/
  | push (session : SessionId) (request : Request)
  /-- A connection asks for the session of a request and pushes an item. -/
  | send (conn : Nat) (request : Request)
  /-- A connection ends. -/
  | disconnect (conn : Nat)
  /-- The receiver of the answer to an item wants no more of it. -/
  | abandon (ticket : Nat)
  /-- The receiver of the answer to an item goes away. -/
  | hangUp (ticket : Nat)
  /-- The host begins a pump. -/
  | pump
  /-- The host begins a pump if the server still runs. -/
  | tick
  /-- The host goes on with its pump. -/
  | work
  /-- The host empties the queue without answering. -/
  | drain
  | cancel (reason : String)
  /-- The server stops running. -/
  | halt

/-- What is seen of a step. -/
inductive Event where
  | quiet
  /-- An item was pushed; the queue kept it or handed back an item. -/
  | pushed (item : WorkItem) (answer : Except WorkItem WorkItem)
  /-- A pump took these items from the queue. -/
  | taken (items : List WorkItem)
  /-- The host took these items from the queue outside a pump. -/
  | drained (items : List WorkItem)
  /-- The queue was closed with these items; below, what became of them. -/
  | cancelled (items settled : List WorkItem)
  /-- An item was processed; below, what became of it. -/
  | settled (item after : WorkItem)
  /-- A pump has ended and returned how many items it answered. -/
  | returned (answered : Nat)
  /-- A pump was cut short. -/
  | panicked (p : Panic)

namespace Event

/-- What became of the item that was processed. -/
def after? : Event → Option WorkItem
  | .settled _ after => some after
  | _ => none

/-- How a pump ends. -/
def ofResult : Except Panic Nat → Event
  | .ok answered => .returned answered
  | .error p => .panicked p

end Event

/-- An exchange with those that act on it. -/
structure Site (σ : Type) where
  exchange : Exchange σ
  /-- The sessions that each connection made. -/
  owned : Nat → Owned
  host : Host

namespace Site

variable {σ : Type} (ev : Evaluator σ)

/-- The site of an exchange to which nothing has come. -/
def start (source : Nat → SessionId) (x : σ) (interval : Duration) : Site σ :=
  ⟨.start source x interval, fun _ => .none, .idle⟩

/-- The receiver of the answer to an item does something to its channel, be the item in the queue
or in hand. -/
def onChannel (s : Site σ) (ticket : Nat) (f : ReplyChannel → ReplyChannel) : Site σ :=
  { s with
    exchange := { s.exchange with queue := s.exchange.queue.onChannel ticket f }
    host := s.host.onChannel ticket f }

/-- The host takes the retired sessions, to close them first. -/
def begin (s : Site σ) : Site σ :=
  let (retired, registry) := s.exchange.registry.takeRetired
  { s with exchange := { s.exchange with registry }, host := .closing retired }

/-- The next step of a pump: a session is closed, or the queue emptied after the last one, or an
item processed, or the number of answered items returned after the last one. -/
def work (s : Site σ) : Event × Site σ :=
  match s.host with
  | .idle => (.quiet, s)
  | .closing (id :: ids) =>
    match ev.close id s.exchange.evaluator with
    | .ok _ evaluator =>
      (.quiet, { s with
        exchange := { s.exchange with evaluator }, host := .closing ids })
    | .error p evaluator =>
      (.panicked p, { s with exchange := { s.exchange with evaluator }, host := .idle })
  | .closing [] =>
    let (items, queue) := s.exchange.queue.drain
    (.taken items, { s with
      exchange := { s.exchange with queue }, host := .answering 0 items })
  | .answering answered (item :: items) =>
    let (now, after, exchange) := s.exchange.process ev item
    (.settled item after, { s with
      exchange, host := .answering (answered + now.toNat) items })
  | .answering answered [] => (.returned answered, { s with host := .idle })

/-- One step. The host does one thing at a time: it begins nothing while a pump is under way. -/
def act (s : Site σ) : Action → Event × Site σ
  | .resolve conn requested =>
    let (_, registry, o) := s.exchange.registry.resolve (s.owned conn) requested
    (.quiet, { s with
      exchange := { s.exchange with registry }, owned := Function.update s.owned conn o })
  | .push session request =>
    let (answer, exchange) := s.exchange.push session request
    (.pushed (s.exchange.item session request) answer, { s with exchange })
  | .send conn request =>
    let (answer, o, exchange) := s.exchange.send (s.owned conn) request
    let session := (s.exchange.registry.resolve (s.owned conn) request.session).1
    (.pushed (s.exchange.item session request) answer,
      { s with exchange, owned := Function.update s.owned conn o })
  | .disconnect conn =>
    let registry := s.exchange.registry.retireConnection (s.owned conn)
    (.quiet, { s with
      exchange := { s.exchange with registry }, owned := Function.update s.owned conn .none })
  | .abandon ticket => (.quiet, s.onChannel ticket ReplyChannel.abandon)
  | .hangUp ticket => (.quiet, s.onChannel ticket ReplyChannel.hangUp)
  | .pump =>
    match s.host with
    | .idle => (.quiet, s.begin)
    | _ => (.quiet, s)
  | .tick =>
    match s.host with
    | .idle =>
      if s.exchange.running then
        let stats := { s.exchange.stats with ticks := s.exchange.stats.ticks + 1 }
        (.quiet, begin { s with exchange := { s.exchange with stats } })
      else (.quiet, s)
    | _ => (.quiet, s)
  | .work => s.work ev
  | .drain =>
    match s.host with
    | .idle =>
      let (items, queue) := s.exchange.queue.drain
      (.drained items, { s with exchange := { s.exchange with queue } })
    | _ => (.quiet, s)
  | .cancel reason =>
    let (settled, exchange) := s.exchange.cancel reason
    (.cancelled s.exchange.queue.items settled, { s with exchange })
  | .halt => (.quiet, { s with exchange := { s.exchange with running := false } })

/-- What the next step of a pump can be, by what the host is in the middle of. -/
inductive Work (b : Exchange σ) (owned : Nat → Owned) : Host → Event → Site σ → Prop where
  | idle : Work b owned .idle .quiet ⟨b, owned, .idle⟩
  | closed {id : SessionId} {ids : List SessionId} {x : σ} :
      ev.close id b.evaluator = .ok () x →
      Work b owned (.closing (id :: ids)) .quiet ⟨{ b with evaluator := x }, owned, .closing ids⟩
  | panicked {id : SessionId} {ids : List SessionId} {p : Panic} {x : σ} :
      ev.close id b.evaluator = .error p x →
      Work b owned (.closing (id :: ids)) (.panicked p) ⟨{ b with evaluator := x }, owned, .idle⟩
  | taken : Work b owned (.closing []) (.taken b.queue.items)
      ⟨{ b with queue := { b.queue with items := [] } }, owned, .answering 0 b.queue.items⟩
  | settled {answered : Nat} {item : WorkItem} {items : List WorkItem} :
      Work b owned (.answering answered (item :: items))
        (.settled item (b.process ev item).2.1)
        ⟨(b.process ev item).2.2, owned,
          .answering (answered + (b.process ev item).1.toNat) items⟩
  | returned {answered : Nat} :
      Work b owned (.answering answered []) (.returned answered) ⟨b, owned, .idle⟩

/-- The next step of a pump is one of these. -/
lemma work_sound (s : Site σ) :
    Work ev s.exchange s.owned s.host (s.work ev).1 (s.work ev).2 := by
  obtain ⟨b, owned, host⟩ := s
  cases host with
  | idle => exact .idle
  | closing ids =>
      cases ids with
      | nil => exact .taken
      | cons id ids =>
          simp only [work]
          cases closed : ev.close id b.evaluator with
          | ok _ x => exact .closed closed
          | error p x => exact .panicked closed
  | answering answered items =>
      cases items with
      | nil => exact .returned
      | cons item items => exact .settled

/-! ### Runs -/

/-- Steps in a row, and what is seen of them. -/
def run : Site σ → List Action → List Event × Site σ
  | s, [] => ([], s)
  | s, a :: as =>
    let (e, s) := s.act ev a
    let (es, s) := run s as
    (e :: es, s)

lemma run_cons (s : Site σ) (a : Action) (as : List Action) :
    s.run ev (a :: as) =
      ((s.act ev a).1 :: ((s.act ev a).2.run ev as).1, ((s.act ev a).2.run ev as).2) := rfl

lemma run_append (s : Site σ) (as bs : List Action) :
    s.run ev (as ++ bs) =
      ((s.run ev as).1 ++ ((s.run ev as).2.run ev bs).1, ((s.run ev as).2.run ev bs).2) := by
  induction as generalizing s with
  | nil => rfl
  | cons a as ih => rw [List.cons_append, run_cons, ih, run_cons]; rfl

/-- One more step at the end of a run. -/
lemma run_concat (s : Site σ) (as : List Action) (a : Action) :
    s.run ev (as ++ [a]) =
      ((s.run ev as).1 ++ [((s.run ev as).2.act ev a).1], ((s.run ev as).2.act ev a).2) := by
  rw [run_append]
  rfl

variable {ev}

/-- **Invariants of runs**: what holds before anything was seen and is kept by every step holds of
what a run has shown and the site it leads to. -/
theorem run_invariant {P : List Event → Site σ → Prop} {s : Site σ} (init : P [] s)
    (step : ∀ es s a, P es s → P (es ++ [(s.act ev a).1]) (s.act ev a).2) (as : List Action) :
    P (s.run ev as).1 (s.run ev as).2 := by
  induction as using List.reverseRecOn with
  | nil => exact init
  | append_singleton as a ih =>
      rw [run_concat]
      exact step _ _ a ih

/-- Sending is resolving and pushing. -/
lemma act_send (s : Site σ) (conn : Nat) (request : Request) :
    s.act ev (.send conn request) =
      (s.act ev (.resolve conn request.session)).2.act ev
        (.push (s.exchange.registry.resolve (s.owned conn) request.session).1 request) := rfl

/-- A tick of a running server is counted and begins a pump. -/
lemma act_tick (s : Site σ) (idle : s.host = .idle) (running : s.exchange.running = true) :
    s.act ev .tick = act ev { s with exchange := { s.exchange with
      stats := { s.exchange.stats with ticks := s.exchange.stats.ticks + 1 } } } .pump := by
  simp only [act, idle, running, if_true]

/-! ### Pumps without interruption -/

/-- The host goes on with its pump `n` times, and nobody else acts. -/
def works (n : Nat) : List Action := List.replicate n .work

lemma works_add (m n : Nat) : works (m + n) = works m ++ works n :=
  List.replicate_add m n _

lemma filterMap_quiet (k : Nat) : (List.replicate k Event.quiet).filterMap Event.after? = [] := by
  simp [Event.after?]

lemma run_works_succ (s : Site σ) (n : Nat) :
    s.run ev (works (n + 1)) =
      ((s.work ev).1 :: ((s.work ev).2.run ev (works n)).1,
        ((s.work ev).2.run ev (works n)).2) := rfl

variable (ev) in
/-- The items in hand are processed one after another, and their number is returned. -/
lemma run_answering (s : Site σ) {answered : Nat} {items : List WorkItem}
    (host : s.host = .answering answered items) :
    let done := Exchange.processAll ev answered s.exchange items
    let r := s.run ev (works (items.length + 1))
    r.2 = { s with exchange := done.2.2, host := .idle } ∧
      r.1.filterMap Event.after? = done.2.1 ∧ r.1.getLast? = some (.returned done.1) := by
  induction items generalizing s answered with
  | nil =>
      have last : s.work ev = (.returned answered, { s with host := .idle }) := by rw [work, host]
      rw [run_works_succ, last]
      exact ⟨rfl, rfl, rfl⟩
  | cons item items ih =>
      have first : s.work ev = (.settled item (s.exchange.process ev item).2.1,
          { s with
            exchange := (s.exchange.process ev item).2.2
            host := .answering (answered + (s.exchange.process ev item).1.toNat) items }) := by
        rw [work, host]
      obtain ⟨site, settled, last⟩ := ih (s.work ev).2 (by rw [first])
      rw [List.length_cons, run_works_succ]
      dsimp only
      rw [List.filterMap_cons, settled, site, List.getLast?_cons, last, first]
      exact ⟨rfl, rfl, rfl⟩

variable (ev) in
/-- Once the retired sessions are closed the queue is emptied and its items are processed. -/
lemma run_taking (s : Site σ) (host : s.host = .closing []) :
    let done := Exchange.processAll ev 0 { s.exchange with queue := s.exchange.queue.drain.2 }
      s.exchange.queue.drain.1
    let r := s.run ev (works (s.exchange.queue.drain.1.length + 1 + 1))
    r.2 = { s with exchange := done.2.2, host := .idle } ∧
      r.1.filterMap Event.after? = done.2.1 ∧ r.1.getLast? = some (.returned done.1) := by
  have first : s.work ev = (.taken s.exchange.queue.drain.1, { s with
      exchange := { s.exchange with queue := s.exchange.queue.drain.2 }
      host := .answering 0 s.exchange.queue.drain.1 }) := by
    rw [work, host]
  obtain ⟨site, settled, last⟩ := run_answering ev (s.work ev).2 (by rw [first])
  rw [run_works_succ, first]
  rw [first] at site settled last
  exact ⟨site, settled, by rw [List.getLast?_cons, last]; rfl⟩

/-- One retired session is closed. -/
lemma work_closing (s : Site σ) {id : SessionId} {ids : List SessionId} {x : σ}
    (host : s.host = .closing (id :: ids))
    (closed : ev.close id s.exchange.evaluator = .ok () x) :
    s.work ev = (.quiet, { s with
      exchange := { s.exchange with evaluator := x }, host := .closing ids }) := by
  rw [work, host]
  dsimp only
  rw [closed]

/-- The retired sessions are closed one after another. -/
lemma run_closing (s : Site σ) {ids : List SessionId} {x : σ}
    (host : s.host = .closing ids)
    (closed : Exchange.closeAll ev ids s.exchange.evaluator = (none, x)) :
    s.run ev (works ids.length) = (List.replicate ids.length .quiet, { s with
      exchange := { s.exchange with evaluator := x }, host := .closing [] }) := by
  induction ids generalizing s with
  | nil =>
      obtain ⟨exchange, owned, _⟩ := s
      subst host
      cases closed
      rfl
  | cons id ids ih =>
      rw [Exchange.closeAll] at closed
      cases now : ev.close id s.exchange.evaluator with
      | error p y => simp [now] at closed
      | ok _ y =>
          rw [now] at closed
          have first := s.work_closing host now
          have rest := ih (s.work ev).2 (by rw [first]) (by rw [first]; exact closed)
          rw [List.length_cons, run_works_succ, rest, first]
          rfl

/-- A panic in closing ends the pump. -/
lemma run_closing_panic (s : Site σ) {ids : List SessionId} {p : Panic} {x : σ}
    (host : s.host = .closing ids)
    (closed : Exchange.closeAll ev ids s.exchange.evaluator = (some p, x)) :
    ∃ n k, s.run ev (works n) = (List.replicate k .quiet ++ [.panicked p], { s with
      exchange := { s.exchange with evaluator := x }, host := .idle }) := by
  induction ids generalizing s with
  | nil => cases closed
  | cons id ids ih =>
      rw [Exchange.closeAll] at closed
      cases now : ev.close id s.exchange.evaluator with
      | error q y =>
          have last : s.work ev = (.panicked q, { s with
              exchange := { s.exchange with evaluator := y }, host := .idle }) := by
            rw [work, host]
            dsimp only
            rw [now]
          rw [now] at closed
          cases closed
          refine ⟨1, 0, ?_⟩
          rw [run_works_succ, last]
          rfl
      | ok _ y =>
          rw [now] at closed
          have first := s.work_closing host now
          obtain ⟨n, k, rest⟩ := ih (s.work ev).2 (by rw [first]) (by rw [first]; exact closed)
          refine ⟨n + 1, k + 1, ?_⟩
          rw [run_works_succ, rest, first]
          rfl

/-- **A pump that nobody interrupts** does to the exchange what `pumpOnce` does, settles the same
items and ends the same way. -/
theorem run_pump (s : Site σ) (idle : s.host = .idle) :
    ∃ n, let pumped := s.exchange.pumpOnce ev
      let r := s.run ev (.pump :: works n)
      r.2 = { s with exchange := pumped.2.2 } ∧ r.1.filterMap Event.after? = pumped.2.1 ∧
        r.1.getLast? = some (.ofResult pumped.1) := by
  obtain ⟨b, owned, _⟩ := s
  subst idle
  have first (as : List Action) : run ev ⟨b, owned, .idle⟩ (.pump :: as) =
      (.quiet :: ((begin ⟨b, owned, .idle⟩).run ev as).1,
        ((begin ⟨b, owned, .idle⟩).run ev as).2) := rfl
  -- either all retired sessions are closed, or one of them panics
  rcases h : Exchange.closeAll ev b.registry.takeRetired.1 b.evaluator with ⟨_ | p, x⟩
  · have closing : run ev (begin ⟨b, owned, .idle⟩) (works b.registry.takeRetired.1.length) =
        (List.replicate b.registry.takeRetired.1.length .quiet, ⟨{ b with
          registry := b.registry.takeRetired.2, evaluator := x }, owned,
          .closing []⟩) := run_closing _ rfl h
    obtain ⟨site, settled, last⟩ := run_taking ev ⟨{ b with
      registry := b.registry.takeRetired.2, evaluator := x }, owned, .closing []⟩ rfl
    refine ⟨b.registry.takeRetired.1.length + (b.queue.drain.1.length + 1 + 1), ?_⟩
    simp only [Exchange.pumpOnce, h, first]
    rw [works_add, run_append, closing]
    refine ⟨site, ?_, ?_⟩
    · rw [List.filterMap_cons, List.filterMap_append, filterMap_quiet]
      exact settled
    · rw [List.getLast?_cons, List.getLast?_append, last]
      rfl
  · obtain ⟨n, k, closing⟩ := run_closing_panic (begin ⟨b, owned, .idle⟩) rfl h
    refine ⟨n, ?_⟩
    simp only [Exchange.pumpOnce, h, first, closing]
    refine ⟨rfl, ?_, ?_⟩
    · rw [List.filterMap_cons, List.filterMap_append, filterMap_quiet]
      rfl
    · rw [List.getLast?_cons, List.getLast?_concat]
      rfl

end Site

end HostedRepl.Bridge
