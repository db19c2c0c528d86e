/-
The service of one connection.

A client sends bytes, in pieces and with ticks between them, while nobody else
does anything. Whatever the pieces are and whenever the ticks come, the server
does for it what the loop does that answers one request after another.

* `Errand`, `sent`: what such a client does, and what it has sent.
* `Server.Beside`: the connection came last, and the others do not matter.
* `Ready`, `Asking`, `Over`: the connection waits for nothing, waits for an
  answer, has ended; `Stage`: one of these, and it has read all it can.
* `Ready.goOn`: a connection that goes on comes to a stage.
* `Stage.client`, `Stage.tick`: **clients and ticks lead from stage to stage**;
  `stage_run`: so does what happens in a row.
* `serves_one_after_another`: the bytes written are those that the loop writes,
  and the sessions that are left are those that the loop leaves.
-/
import Mathlib.Tactic
import HostedRepl.Proofs.Bridge.Loop
import HostedRepl.Proofs.Server.Roster
import HostedRepl.Proofs.Wire.Requests

namespace HostedRepl

open Bridge Wire

variable {σ : Type}

namespace Server

/-! ### A client that stays -/

/-- What a client does that does not go away, and the ticks meanwhile. -/
inductive Errand where
  | send (bytes : Bytes)
  | endInput
  | tick

/-- What a client has sent, and whether that is all. -/
structure Sent where
  bytes : Bytes
  ended : Bool

/-- There are no more requests to come: the stream has ended, or it holds something that is no
request. -/
def Sent.isOver (st : Sent) : Bool := st.ended || !(requests st.bytes).2.isDisconnect

namespace Errand

/-- The errand as an event at the server. -/
def event (id : Nat) : Errand → Event
  | send bytes => .client (.receive id bytes)
  | endInput => .client (.endInput id)
  | tick => .tick

/-- What it adds to what the client has sent. Nothing comes after the end. -/
def add (st : Sent) : Errand → Sent
  | send bytes => if st.ended then st else { st with bytes := st.bytes ++ bytes }
  | endInput => { st with ended := true }
  | tick => st

/-- What it does to the connection, which may then go on. -/
def touch (c : Connection) : Errand → Connection
  | send bytes => if c.inputEnded then c else { c with input := c.input ++ bytes }
  | endInput => { c with inputEnded := true }
  | tick => c

/-- Only the input is touched. -/
lemma exists_touch (c : Connection) (e : Errand) :
    ∃ input ended, e.touch c = { c with input, inputEnded := ended } := by
  cases e with
  | send bytes =>
      rw [touch]
      split
      · exact ⟨_, _, rfl⟩
      · exact ⟨_, _, rfl⟩
  | endInput => exact ⟨_, _, rfl⟩
  | tick => exact ⟨_, _, rfl⟩

end Errand

/-- What a client has sent after errands in a row. -/
def sent (es : List Errand) : Sent := es.foldl Errand.add ⟨[], false⟩

/-- Where no more requests are to come, none do. -/
lemma requests_add {st : Sent} (final : st.isOver = true) (e : Errand) :
    (e.add st).isOver = true ∧ requests (e.add st).bytes = requests st.bytes := by
  cases e with
  | send bytes =>
      rw [Errand.add]
      split
      · exact ⟨final, rfl⟩
      · next more =>
        rw [Sent.isOver, Bool.eq_false_iff.mpr more, Bool.false_or, Bool.not_eq_true'] at final
        have same : requests (st.bytes ++ bytes) = requests st.bytes :=
          requests_append rfl final bytes
        refine ⟨?_, same⟩
        rw [Sent.isOver, same, final]
        simp
  | endInput => exact ⟨rfl, rfl⟩
  | tick => exact ⟨final, rfl⟩

/-! ### The place of the connection -/

/-- The connection is the one that came after `s₀`: the others are as they were, and wait for no
ticket from then on. -/
structure Beside (s₀ s : Server σ) (c : Connection) : Prop where
  connections : s.connections = s₀.connections ++ [c]
  id : c.id = s₀.connections.length
  running : s.exchange.running = true
  isOpen : s.exchange.queue.closed = false
  ticket : s₀.exchange.nextTicket ≤ s.exchange.nextTicket

/-- The new connection. -/
lemma Serving.beside {s : Server σ} (h : Serving s) :
    s.accept.1 = some s.connections.length ∧
      Beside s s.accept.2 ⟨s.connections.length, .none, [], false, none, [], true⟩ := by
  rw [accept, if_neg (by simp [h.accepts])]
  exact ⟨rfl, rfl, rfl, h.running, h.isOpen, Nat.le_refl _⟩

namespace Beside

variable {s₀ s : Server σ} {c c' : Connection}

lemma exchange (h : Beside s₀ s c) {b : Exchange σ} (running : b.running = true)
    (isOpen : b.queue.closed = false) (le : s.exchange.nextTicket ≤ b.nextTicket) :
    Beside s₀ { s with exchange := b } c :=
  ⟨h.connections, h.id, running, isOpen, h.ticket.trans le⟩

section Roster

variable (serving : Serving s₀)

include serving

lemma ne_length {o : Connection} (mem : o ∈ s₀.connections) : o.id ≠ s₀.connections.length := by
  have below : o.id ∈ List.range s₀.connections.length := by
    rw [← serving.roster.ids]
    exact List.mem_map_of_mem mem
  exact (List.mem_range.mp below).ne

lemma put (h : Beside s₀ s c) (same : c'.id = s₀.connections.length) :
    Beside s₀ (s.put c') c' where
  connections := by
    have others : (s₀.connections.map fun old => if old.id = c'.id then c' else old) =
        s₀.connections := by
      refine (List.map_congr_left fun o mem => ?_).trans s₀.connections.map_id
      exact if_neg (same ▸ ne_length serving mem)
    rw [Server.put, h.connections, List.map_append, others, List.map_singleton,
      if_pos (h.id.trans same.symm)]
  id := same
  running := h.running
  isOpen := h.isOpen
  ticket := h.ticket

lemma close (h : Beside s₀ s c) (same : c'.id = s₀.connections.length) :
    Beside s₀ (s.close c') { c' with isOpen := false, waiting := none, owned := .none } := by
  have placed : Beside s₀ (s.put { c' with isOpen := false, waiting := none, owned := .none }) _ :=
    h.put serving same
  exact ⟨placed.connections, same, h.running, h.isOpen, h.ticket⟩

lemma connection?_eq (h : Beside s₀ s c) : s.connection? s₀.connections.length = some c := by
  have others : s₀.connections.find? (fun o => o.id == s₀.connections.length) = none :=
    List.find?_eq_none.mpr fun o mem same => ne_length serving mem (by simpa using same)
  rw [connection?, h.connections, List.find?_append, others, Option.none_or]
  simp [h.id]

/-- The connection alone waits for its ticket. -/
lemma find_waiting (h : Beside s₀ s c) (isOpen : c.isOpen = true) {t : Nat}
    (waits : c.waiting = some t) (le : s₀.exchange.nextTicket ≤ t) :
    s.connections.find? (fun c => c.isOpen && c.waiting == some t) = some c := by
  have others : s₀.connections.find? (fun c => c.isOpen && c.waiting == some t) = none := by
    refine List.find?_eq_none.mpr fun o mem found => ?_
    simp only [Bool.and_eq_true, beq_iff_eq] at found
    have earlier := serving.roster.waits o mem t found.2
    omega
  rw [h.connections, List.find?_append, others, Option.none_or]
  simp [isOpen, waits]

end Roster

end Beside

/-! ### Stages -/

/-- The loop where the server stands, for a connection that has made no session yet. -/
def loop (ev : Evaluator σ) (s : Server σ) : Loop σ :=
  ⟨(s.exchange.closed ev).registry, (s.exchange.closed ev).evaluator, .none, []⟩

/-- The connection has read these requests from what was sent, and holds the rest. -/
structure Reading (st : Sent) (qs : List Request) (c : Connection) : Prop where
  reads : Reads st.bytes qs c.input
  ended : c.inputEnded = st.ended

lemma Reading.touch {st : Sent} {qs : List Request} {c : Connection} (h : Reading st qs c)
    (e : Errand) : Reading (e.add st) qs (e.touch c) := by
  cases e with
  | send bytes =>
      rw [Errand.add, Errand.touch]
      by_cases ended : st.ended = true
      · rw [if_pos ended, if_pos (h.ended.trans ended)]
        exact h
      · rw [if_neg ended, if_neg (h.ended ▸ ended)]
        exact ⟨h.reads.append bytes, h.ended⟩
  | endInput => exact ⟨h.reads, rfl⟩
  | tick => exact h

section Stages

variable (ev : Evaluator σ)

/-- The connection stands where the loop stands. -/
structure Abreast (l : Loop σ) (b : Exchange σ) (c : Connection) : Prop where
  isOpen : c.isOpen = true
  owned : c.owned = l.owned
  output : c.output = l.output
  follows : b.Follows ev l

variable (s₀ : Server σ) (st : Sent) (qs : List Request)

/-- All requests that have been read are answered. -/
structure Ready (b : Exchange σ) (c : Connection) : Prop
    extends Abreast ev ((s₀.loop ev).serveAll ev qs) b c where
  reading : Reading st qs c
  idle : c.waiting = none
  empty : b.queue.items = []

/-- All requests that have been read are answered, but for the last one, which waits. -/
structure Asking (item : WorkItem) (b : Exchange σ) (c : Connection) : Prop
    extends Abreast ev (((s₀.loop ev).serveAll ev qs).resolve item.request) b c where
  reading : Reading st (qs ++ [item.request]) c
  waits : c.waiting = some item.ticket
  only : b.queue.items = [item]
  fresh : item.channel = .fresh
  session : item.session = ((s₀.loop ev).serveAll ev qs).session item.request
  ticket : s₀.exchange.nextTicket ≤ item.ticket

/-- All requests are answered, and the connection has ended. -/
structure Over (b : Exchange σ) (c : Connection) : Prop where
  isOver : st.isOver = true
  all : (requests st.bytes).1 = qs
  closed : c.isOpen = false
  output : c.output = ((s₀.loop ev).serveAll ev qs).output
  sessions :
    let l := (s₀.loop ev).serveAll ev qs
    b.registry.sessions = l.registry.sessions.filter fun s => s.id ∉ l.owned.ids
  empty : b.queue.items = []

/-- The connection has read these requests, and goes on as soon as it can. -/
inductive Stage (s : Server σ) : Prop
  | idle {c : Connection} {e : DecodeError} : Beside s₀ s c → Ready ev s₀ st qs s.exchange c →
      readRequest c.input = .error e → e.isDisconnect = true → st.ended = false → Stage s
  | asking {c : Connection} {item : WorkItem} : Beside s₀ s c →
      Asking ev s₀ st qs item s.exchange c → Stage s
  | ended {c : Connection} : Beside s₀ s c → Over ev s₀ st qs s.exchange c → Stage s

end Stages

variable {ev : Evaluator σ} {s₀ s : Server σ} {st : Sent} {qs : List Request} {c old : Connection}

/-- The next request has come, and the connection asks it. -/
lemma Ready.ask (h : Ready ev s₀ st qs s.exchange c) (serving : Serving s₀)
    (beside : Beside s₀ s old) (same : c.id = s₀.connections.length) {r : Request} {rest : Bytes}
    (next : readRequest c.input = .ok (r, rest)) :
    Stage ev s₀ st qs (s.serveNext c) ∧
      (s.serveNext c).exchange.registry.retired = s.exchange.registry.retired := by
  obtain ⟨b, sent, follows, only, closed, ticket, running, retired⟩ :=
    h.follows.send beside.isOpen r
  rw [h.empty, List.nil_append] at only
  have asks : s.serveNext c = { s with exchange := b }.put
      { c with
        input := rest
        owned := (((s₀.loop ev).serveAll ev qs).resolve r).owned
        waiting := some s.exchange.nextTicket } := by
    rw [serveNext, h.isOpen, h.idle, Connection.next?_of_ok next, h.owned]
    simp only [sent]
    rfl
  have moved : Beside s₀ { s with exchange := b } old :=
    beside.exchange (running.trans beside.running) (closed.trans beside.isOpen) (by omega)
  rw [asks]
  refine ⟨.asking (moved.put serving same) ⟨⟨h.isOpen, ?_, h.output, ?_⟩, ?_, ?_, only, rfl, rfl,
    beside.ticket⟩, retired⟩
  · rfl
  · exact follows
  · exact ⟨h.reading.reads.concat next, h.reading.ended⟩
  · rfl

/-- No request will come any more, and the connection ends. -/
lemma Ready.leave (h : Ready ev s₀ st qs s.exchange c) (serving : Serving s₀)
    (beside : Beside s₀ s old) (same : c.id = s₀.connections.length) {e : DecodeError}
    (next : readRequest c.input = .error e) (final : ¬(e.isDisconnect && !c.inputEnded) = true) :
    Stage ev s₀ st qs (s.serveNext c) ∧ (s.serveNext c).exchange.queue.items = [] := by
  have closes : s.serveNext c = s.close c := by
    rw [serveNext, h.isOpen, h.idle, Connection.next?_of_error next, if_neg final]
    rfl
  have all : requests st.bytes = (qs, e) := by
    rw [h.reading.reads.requests_eq, requests_of_error next, List.append_nil]
  rw [closes]
  refine ⟨.ended (beside.close serving same) ⟨?_, ?_, rfl, h.output, ?_, h.empty⟩, h.empty⟩
  · rw [Sent.isOver, all, ← h.reading.ended]
    cases ended : c.inputEnded with
    | true => rfl
    | false => simpa [ended] using final
  · rw [all]
  · show (s.exchange.registry.retireConnection c.owned).sessions = _
    rw [Registry.sessions_retireConnection, h.follows.sessions, h.owned]

/-- **A connection that goes on** comes to a stage. -/
theorem Ready.goOn (h : Ready ev s₀ st qs s.exchange c) (serving : Serving s₀)
    (beside : Beside s₀ s old) (same : c.id = s₀.connections.length) :
    Stage ev s₀ st qs (s.serveNext c) ∧
      ((s.serveNext c).exchange.queue.items = [] ∨
        (s.serveNext c).exchange.registry.retired = s.exchange.registry.retired) := by
  cases next : readRequest c.input with
  | ok first =>
      obtain ⟨r, rest⟩ := first
      exact (h.ask serving beside same next).imp_right .inr
  | error e =>
      by_cases more : (e.isDisconnect && !c.inputEnded) = true
      · have stays : s.serveNext c = s.put c := by
          rw [serveNext, h.isOpen, h.idle, Connection.next?_of_error next, if_pos more]
          rfl
        obtain ⟨disconnect, goes⟩ := Bool.and_eq_true_iff.mp more
        rw [h.reading.ended, Bool.not_eq_true'] at goes
        rw [stays]
        exact ⟨.idle (beside.put serving same) h next disconnect goes, .inr rfl⟩
      · exact (h.leave serving beside same next more).imp_right .inl

/-! ### Steps -/

/-- A connection is touched, and goes on. -/
lemma happen_event (serving : Serving s₀) (beside : Beside s₀ s c) {e : Errand} (client : e ≠ .tick) :
    s.happen ev (e.event s₀.connections.length) = s.serveNext (e.touch c) := by
  have found := beside.connection?_eq serving
  cases e with
  | send bytes =>
      show s.onConnection _ _ = _
      rw [onConnection, found]
      rfl
  | endInput =>
      show s.onConnection _ _ = _
      rw [onConnection, found]
      rfl
  | tick => exact absurd rfl client

/-- **What the client does** leads to a stage. -/
theorem Stage.client (serving : Serving s₀) (h : Stage ev s₀ st qs s) {e : Errand}
    (client : e ≠ .tick) :
    Stage ev s₀ (e.add st) qs (s.happen ev (e.event s₀.connections.length)) := by
  cases h with
  | @idle c _ beside ready failed disconnect more =>
      rw [happen_event serving beside client]
      have reading := ready.reading.touch e
      obtain ⟨input, ended, touched⟩ := Errand.exists_touch c e
      rw [touched] at reading ⊢
      have still : Ready ev s₀ (e.add st) qs s.exchange { c with input, inputEnded := ended } :=
        ⟨⟨ready.isOpen, ready.owned, ready.output, ready.follows⟩, reading, ready.idle, ready.empty⟩
      exact (still.goOn serving beside (by exact beside.id)).1
  | @asking c item beside asking =>
      rw [happen_event serving beside client]
      have reading := asking.reading.touch e
      obtain ⟨input, ended, touched⟩ := Errand.exists_touch c e
      rw [touched] at reading ⊢
      rw [serveNext_of_not (by simp [asking.waits])]
      exact .asking (beside.put serving beside.id)
        ⟨⟨asking.isOpen, asking.owned, asking.output, asking.follows⟩, reading, asking.waits,
          asking.only, asking.fresh, asking.session, asking.ticket⟩
  | @ended c beside gone =>
      rw [happen_event serving beside client]
      obtain ⟨isOver, all⟩ := requests_add gone.isOver e
      obtain ⟨input, ended, touched⟩ := Errand.exists_touch c e
      rw [touched, serveNext_of_not (by simp [gone.closed])]
      exact .ended (beside.put serving beside.id)
        ⟨isOver, all ▸ gone.all, gone.closed, gone.output, gone.sessions, gone.empty⟩

/-- The responses among the replies of a whole answer. -/
lemma framesOf_answer (rs : List Response) : framesOf (rs.map .frame ++ [.finished]) = rs := by
  have frames : framesOf (rs.map .frame) = rs := by
    rw [framesOf, List.filterMap_map]
    exact List.filterMap_some
  calc framesOf (rs.map .frame ++ [.finished])
    _ = framesOf (rs.map .frame) ++ [] := by
        rw [framesOf, List.filterMap_append]
        rfl
    _ = rs ++ [] := by rw [frames]
    _ = rs := List.append_nil rs

/-- The answer that a connection waits for is written, and it goes on. -/
lemma deliver_of_answer (serving : Serving s₀) (beside : Beside s₀ s c) (isOpen : c.isOpen = true)
    {item : WorkItem} (waits : c.waiting = some item.ticket)
    (le : s₀.exchange.nextTicket ≤ item.ticket) {rs : List Response}
    (answer : item.channel.pending = rs.map .frame ++ [.finished]) :
    s.deliver item = s.serveNext { c.write rs with waiting := none } := by
  rw [deliver, beside.find_waiting serving isOpen waits le]
  dsimp only
  rw [answer, framesOf_answer, if_pos (by simp)]

lemma Stage.running (h : Stage ev s₀ st qs s) : s.exchange.running = true := by
  cases h with
  | idle beside _ _ _ _ => exact beside.running
  | asking beside _ => exact beside.running
  | ended beside _ => exact beside.running

/-- A tick that answers nothing changes no stage. -/
lemma Stage.ticked (h : Stage ev s₀ st qs s) :
    Stage ev s₀ st qs { s with exchange := (s.exchange.closed ev).ticked } := by
  cases h with
  | @idle c e beside ready failed disconnect more =>
      exact .idle (beside.exchange beside.running beside.isOpen (Nat.le_refl _))
        ⟨⟨ready.isOpen, ready.owned, ready.output, ready.follows.ticked⟩, ready.reading, ready.idle,
          ready.empty⟩ failed disconnect more
  | @asking c item beside asking =>
      exact .asking (beside.exchange beside.running beside.isOpen (Nat.le_refl _))
        ⟨⟨asking.isOpen, asking.owned, asking.output, asking.follows.ticked⟩, asking.reading,
          asking.waits, asking.only, asking.fresh, asking.session, asking.ticket⟩
  | @ended c beside gone =>
      exact .ended (beside.exchange beside.running beside.isOpen (Nat.le_refl _))
        ⟨gone.isOver, gone.all, gone.closed, gone.output, gone.sessions, gone.empty⟩

/-- All that is left to answer is answered within some ticks. -/
def Due (st : Sent) (ticks : Nat) (qs : List Request) (s : Server σ) : Prop :=
  s.exchange.queue.items = [] ∨
    s.exchange.registry.retired = [] ∧ (requests st.bytes).1.length ≤ qs.length + ticks

lemma tick_of_settled {items : List WorkItem} {b : Exchange σ}
    (settled : (s.exchange.tick ev).2 = (items, b)) :
    (s.tick ev).2 = items.foldl deliver { s with exchange := b } := by
  rw [tick]
  simp only [settled]

/-- **The answer to the request that waits** leads to a stage. -/
lemma Asking.answered (serving : Serving s₀) (beside : Beside s₀ s c) {item : WorkItem}
    (h : Asking ev s₀ st qs item s.exchange c) (calm : s.exchange.Calm ev) :
    Stage ev s₀ st (qs ++ [item.request]) (s.tick ev).2 ∧
      ((s.tick ev).2.exchange.queue.items = [] ∨ (s.tick ev).2.exchange.registry.retired = []) := by
  have answers := Exchange.tick_of_calm beside.running calm
  obtain ⟨after, responses, settled, ticket, pending, output, follows⟩ :=
    h.follows.answer h.only h.fresh
  rw [← answers] at settled follows
  have placed : Beside s₀ { s with exchange := (s.exchange.tick ev).2.2 } c :=
    beside.exchange ((Exchange.running_tick ev _).trans beside.running)
      ((s.exchange.tick_queue ev).1.trans beside.isOpen) (s.exchange.tick_queue ev).2.ge
  have ticked : (s.tick ev).2 = serveNext { s with exchange := (s.exchange.tick ev).2.2 }
      { c.write responses with waiting := none } := by
    rw [tick_of_settled (Prod.ext settled rfl), List.foldl_cons, List.foldl_nil]
    exact deliver_of_answer serving placed h.isOpen (ticket ▸ h.waits) (ticket ▸ h.ticket) pending
  have retired : (s.exchange.tick ev).2.2.registry.retired = [] := by
    rw [answers]
    exact Exchange.retired_answerAll ev _
  have queue : (s.exchange.tick ev).2.2.queue.items = [] := by
    rw [answers, Exchange.queue_answerAll]
    rfl
  have ready : Ready ev s₀ st (qs ++ [item.request]) (s.exchange.tick ev).2.2
      { c.write responses with waiting := none } := by
    have served := (s₀.loop ev).serveAll_concat ev qs item.request
    rw [Loop.serve, ← h.session] at served
    refine ⟨⟨h.isOpen, ?_, ?_, ?_⟩, ⟨h.reading.reads, h.reading.ended⟩, rfl, queue⟩
    · rw [served]
      exact h.owned
    · rw [served, output, ← h.output]
      rfl
    · rw [served]
      exact follows
  obtain ⟨stage, left⟩ := ready.goOn serving placed (by exact beside.id)
  rw [ticked]
  exact ⟨stage, left.imp_right fun same => same.trans retired⟩

/-- **A tick** leads to a stage, and leaves a tick less to wait for. -/
theorem Stage.tick (serving : Serving s₀) (h : Stage ev s₀ st qs s) :
    ∃ qs', Stage ev s₀ st qs' (s.tick ev).2 ∧ ∀ ticks,
      (requests st.bytes).1.length ≤ ticks ∨ Due st (ticks + 1) qs s →
        Due st ticks qs' (s.tick ev).2 := by
  by_cases quiet : (s.exchange.tick ev).2 = ([], (s.exchange.closed ev).ticked)
  · have ticked : (s.tick ev).2 = { s with exchange := (s.exchange.closed ev).ticked } :=
      tick_of_settled quiet
    rw [ticked]
    refine ⟨qs, h.ticked, fun ticks due => ?_⟩
    rcases due with le | empty | ⟨retired, -⟩
    · exact .inr ⟨rfl, le.trans (Nat.le_add_left _ _)⟩
    · exact .inl empty
    · -- with no session to close the tick has taken what waits
      have calm : s.exchange.Calm ev := (Exchange.closed_of_retired retired).1
      have taken := congrArg (fun r => r.2.queue.items)
        ((Exchange.tick_of_calm h.running calm).symm.trans quiet)
      rw [Exchange.queue_answerAll] at taken
      exact .inl taken.symm
  · cases h with
    | @idle c e beside ready failed disconnect more =>
        exact absurd (Exchange.tick_of_nil beside.running ready.empty) quiet
    | @asking c item beside asking =>
        have calm : s.exchange.Calm ev := by
          by_contra panics
          exact quiet (Exchange.tick_of_panic beside.running panics)
        obtain ⟨stage, left⟩ := asking.answered serving beside calm
        refine ⟨qs ++ [item.request], stage, fun ticks due =>
          left.imp_right fun retired => ⟨retired, ?_⟩⟩
        rw [List.length_append, List.length_singleton]
        rcases due with le | empty | ⟨-, le⟩
        · omega
        · rw [asking.only] at empty
          cases empty
        · omega
    | @ended c beside gone =>
        exact absurd (Exchange.tick_of_nil beside.running gone.empty) quiet

/-- A new connection is at a stage. -/
lemma stage_accept (serving : Serving s₀) (idle : s₀.exchange.queue.items = []) :
    Stage ev s₀ (sent []) [] s₀.accept.2 := by
  obtain ⟨-, beside⟩ := serving.beside
  have accepted : s₀.accept.2.exchange = s₀.exchange := by
    rw [accept]
    split <;> rfl
  have ready : Ready ev s₀ (sent []) [] s₀.accept.2.exchange
      ⟨s₀.connections.length, .none, [], false, none, [], true⟩ := by
    rw [accepted]
    exact ⟨⟨rfl, rfl, rfl, rfl, rfl⟩, ⟨.nil _, rfl⟩, rfl, idle⟩
  have nothing : readRequest [] = .error .ended := rfl
  exact .idle beside ready nothing rfl rfl

/-- **From errand to errand** the connection comes to a stage. -/
theorem stage_run (serving : Serving s₀) (h : Stage ev s₀ st qs s) (es : List Errand) :
    ∃ qs', Stage ev s₀ (es.foldl Errand.add st) qs'
      (s.run ev (es.map (Errand.event s₀.connections.length))) := by
  induction es generalizing st qs s with
  | nil => exact ⟨qs, h⟩
  | cons e es ih =>
      by_cases ticks : e = .tick
      · subst ticks
        obtain ⟨qs', stage, -⟩ := h.tick serving
        exact ih stage
      · exact ih (h.client serving ticks)

/-- **Ticks** answer all that is left. -/
theorem Stage.ticks (serving : Serving s₀) (n : Nat) (h : Stage ev s₀ st qs s) (due : Due st n qs s) :
    (s.run ev (List.replicate n .tick)).exchange.queue.items = [] := by
  induction n generalizing qs s with
  | zero =>
      rcases due with empty | ⟨-, le⟩
      · exact empty
      · cases h with
        | @idle c e beside ready failed disconnect more => exact ready.empty
        | @asking c item beside asking =>
            -- the request that waits is one more
            have all := congrArg (fun r => r.1.length) asking.reading.reads.requests_eq
            simp only [List.length_append, List.length_singleton] at all
            omega
        | @ended c beside gone => exact gone.empty
  | succ n ih =>
      obtain ⟨qs', stage, left⟩ := h.tick serving
      exact ih stage (left n (.inr due))

/-- What the connection has come to when nothing waits. -/
lemma Stage.settled (serving : Serving s₀) (h : Stage ev s₀ st qs s)
    (settled : s.exchange.queue.items = []) :
    let l := (s₀.loop ev).serveAll ev (requests st.bytes).1
    ∃ c, s.connection? s₀.connections.length = some c ∧ c.output = l.output ∧
      c.isOpen = !st.isOver ∧ s.exchange.registry.sessions =
        if st.isOver then l.registry.sessions.filter fun s => s.id ∉ l.owned.ids
        else l.registry.sessions := by
  cases h with
  | @idle c e beside ready failed disconnect more =>
      have all : requests st.bytes = (qs, e) := by
        rw [ready.reading.reads.requests_eq, requests_of_error failed, List.append_nil]
      have goes : st.isOver = false := by
        rw [Sent.isOver, all, disconnect, more]
        rfl
      rw [all, goes]
      exact ⟨c, beside.connection?_eq serving, ready.output, ready.isOpen, ready.follows.sessions⟩
  | @asking c item beside asking =>
      rw [asking.only] at settled
      cases settled
  | @ended c beside gone =>
      rw [gone.all, gone.isOver]
      exact ⟨c, beside.connection?_eq serving, gone.output, gone.closed, gone.sessions⟩

/-! ### All that a client does -/

/-- **One request after another.** A client connects to a server for which nothing waits, and sends
bytes in any pieces, with ticks at any time. Once nothing waits, the bytes that have been written are
those that the loop writes that answers the requests in what was sent, and nothing more. If there are
no more to come, the connection has ended, and of the sessions that the loop leaves those are gone
that were made for the connection; otherwise it goes on. And after some ticks nothing waits. -/
theorem serves_one_after_another (ev : Evaluator σ) (endpoint : Endpoint) (host : String)
    (source : Nat → SessionId) (x : σ) (interval : Duration) (portFile : Option String)
    (before : List Event) :
    let s := (start endpoint host (Exchange.start source x interval) portFile).run ev before
    s.exchange.queue.items = [] → s.accept.1 = some s.connections.length ∧ ∀ es : List Errand,
      let st := sent es
      let rs := (requests st.bytes).1
      let l := (s.loop ev).serveAll ev rs
      let now := s.accept.2.run ev (es.map (Errand.event s.connections.length))
      (now.exchange.queue.items = [] →
        ∃ c, now.connection? s.connections.length = some c ∧ c.output = l.output ∧
          c.isOpen = !st.isOver ∧ now.exchange.registry.sessions =
            if st.isOver then l.registry.sessions.filter fun s => s.id ∉ l.owned.ids
            else l.registry.sessions) ∧
      ∀ ticks, rs.length < ticks →
        (now.run ev (List.replicate ticks .tick)).exchange.queue.items = [] := by
  intro s idle
  have serving : Serving s := serving_run ev (serving_start _ _ _ _ _ _) before
  refine ⟨serving.beside.1, fun es => ?_⟩
  intro st rs l now
  obtain ⟨qs, stage⟩ : ∃ qs, Stage ev s st qs now :=
    stage_run serving (stage_accept serving idle) es
  refine ⟨stage.settled serving, fun ticks many => ?_⟩
  -- the first tick may be spent on closing sessions
  obtain ⟨n, rfl⟩ := Nat.exists_eq_add_of_lt many
  obtain ⟨qs', stage', due⟩ := stage.tick serving
  exact stage'.ticks serving _ (due _ (.inl (Nat.le_add_right _ _)))

/-- Two requests to clone a session and something that is no request, in one go. -/
def pipelined : Bytes := Bytes.ofText "d2:op5:cloneed2:op5:cloneex"

/-- A client has come and gone, and its default session is still to be closed. -/
def visits : List Event := [.client .accept, .client (.receive 0 pipelined), .tick, .tick]

/-- The server to which the next client comes. -/
abbrev visited : Server Lisp.Runtime :=
  (start ⟨.v4 0, 7888⟩ "localhost"
    (Exchange.start (SessionId.numbered 0) Lisp.Runtime.start ⟨0⟩) none).run .ofRuntime visits

/-- A client sends the same in two pieces. -/
def pieces : List Errand :=
  [.send (pipelined.take 5), .tick, .send (pipelined.drop 5), .tick, .tick]

/-- The next client has two responses, and its default session is gone. -/
theorem serves_one_after_another_pieces :
    let id := visited.connections.length
    let now := visited.accept.2.run .ofRuntime (pieces.map (Errand.event id))
    visited.exchange.queue.items = [] ∧ visited.exchange.registry.retired.length = 1 ∧
      ∃ c, now.connection? id = some c ∧ (frames c.output).1.length = 2 ∧ c.isOpen = false ∧
        now.exchange.registry.sessions.length = 4 := by
  have idle : visited.exchange.queue.items = [] := List.length_eq_zero_iff.mp (by decide +kernel)
  have settled : (visited.accept.2.run .ofRuntime
      (pieces.map (Errand.event visited.connections.length))).exchange.queue.items = [] :=
    List.length_eq_zero_iff.mp (by decide +kernel)
  obtain ⟨-, served⟩ := serves_one_after_another .ofRuntime ⟨.v4 0, 7888⟩ "localhost"
    (SessionId.numbered 0) Lisp.Runtime.start ⟨0⟩ none visits idle
  obtain ⟨c, found, output, isOpen, -⟩ := (served pieces).1 settled
  refine ⟨idle, by decide +kernel, c, found, ?_, ?_, by decide +kernel⟩
  · rw [output]
    decide +kernel
  · rw [isOpen]
    decide +kernel

end Server

end HostedRepl
