/-
What connections do to a server.

Each connection is served by a thread of its own. It finds the session of a
request, pushes the request, passes on the answer and in the end goes away, and
other threads may act between any two of these steps. None of them settles an
item or lets the server run again.

* `Bridge.WorkQueue.Onward`: a queue that connections have used meanwhile: its
  items are still in it, and a closed queue stays empty.
* `Server.offer`: what a connection does with a request whose session has been
  found; `serveNext_eq_offer`: this is how it is served.
* `Server.Onward`: a server whose connections have gone on meanwhile.
* `Server.Move`, `move`: one step of a connection; `onward_moves`: **steps of
  connections only lead onward**.
-/
import Mathlib.Tactic
import HostedRepl.Proofs.Bridge.Answer
import HostedRepl.Proofs.Bridge.Pump
import HostedRepl.Proofs.Server.Steady

namespace HostedRepl

open Bridge Wire

variable {σ : Type}

/-! ### Queues -/

namespace Bridge

/-- The same request, waiting in its session under its ticket, whatever its channel has been told
meanwhile. -/
structure WorkItem.Alike (item after : WorkItem) : Prop where
  ticket : after.ticket = item.ticket
  session : after.session = item.session
  request : after.request = item.request

/-- The channel waits still if its receiver wants nothing more. -/
lemma ReplyChannel.Waiting.abandon {c : ReplyChannel} (waiting : c.Waiting) : c.abandon.Waiting :=
  ⟨waiting.pending, fun _ => rfl⟩

/-- So does the channel of a receiver that is gone. -/
lemma ReplyChannel.waiting_hangUp (c : ReplyChannel) : c.hangUp.Waiting := ⟨rfl, fun _ => rfl⟩

namespace WorkQueue

/-- All items wait for their answers. -/
def Waiting (q : WorkQueue) : Prop := ∀ item ∈ q.items, item.channel.Waiting

/-- Nobody has taken an item from the queue or answered one meanwhile, and none has come in if the
queue was closed. -/
structure Onward (q q' : WorkQueue) : Prop where
  closed : q'.closed = q.closed
  kept : ∀ item ∈ q.items, ∃ after ∈ q'.items, item.Alike after
  waiting : q.Waiting → q'.Waiting
  empty : q.closed = true → q.items = [] → q'.items = []

namespace Onward

variable {q q' q'' : WorkQueue}

lemma refl (q : WorkQueue) : Onward q q :=
  ⟨rfl, fun item mem => ⟨item, mem, rfl, rfl, rfl⟩, id, fun _ => id⟩

lemma trans (h : Onward q q') (h' : Onward q' q'') : Onward q q'' where
  closed := h'.closed.trans h.closed
  kept item mem := by
    obtain ⟨after, mem', alike⟩ := h.kept item mem
    obtain ⟨last, mem'', alike'⟩ := h'.kept after mem'
    exact ⟨last, mem'', alike'.ticket.trans alike.ticket, alike'.session.trans alike.session,
      alike'.request.trans alike.request⟩
  waiting waits := h'.waiting (h.waiting waits)
  empty closed none := h'.empty (h.closed.trans closed) (h.empty closed none)

/-- A queue that is closed and empty stays so. -/
lemma eq_closed (on : Onward q q') (final : q = ⟨[], true⟩) : q' = ⟨[], true⟩ := by
  subst final
  obtain ⟨items, closed⟩ := q'
  rw [show items = [] from on.empty rfl rfl, show closed = true from on.closed]

/-- An item comes in. -/
lemma append (isOpen : q.closed = false) {item : WorkItem} (waits : item.channel.Waiting) :
    Onward q { q with items := q.items ++ [item] } where
  closed := rfl
  kept item' mem := ⟨item', List.mem_append_left _ mem, rfl, rfl, rfl⟩
  waiting waiting := List.forall_mem_append.mpr ⟨waiting, List.forall_mem_singleton.mpr waits⟩
  empty closed := absurd (isOpen.symm.trans closed) Bool.false_ne_true

/-- A receiver does something to its channel. -/
lemma onChannel {f : ReplyChannel → ReplyChannel} (keeps : ∀ c, c.Waiting → (f c).Waiting)
    (ticket : Nat) : Onward q (q.onChannel ticket f) := by
  have alike (item : WorkItem) : item.Alike (item.onChannel ticket f) := by
    rw [WorkItem.onChannel]
    split <;> exact ⟨rfl, rfl, rfl⟩
  refine ⟨rfl, fun item mem => ⟨_, List.mem_map_of_mem mem, alike item⟩, fun waiting => ?_,
    fun _ none => List.map_eq_nil_iff.mpr none⟩
  refine List.forall_mem_map.mpr fun item mem => ?_
  rw [WorkItem.onChannel]
  split
  · exact keeps _ (waiting item mem)
  · exact waiting item mem

end Onward

end WorkQueue

namespace Exchange

lemma onward_push (b : Exchange σ) (session : SessionId) (request : Request) :
    b.queue.Onward (b.push session request).2.queue := by
  by_cases closed : b.queue.closed = true
  · rw [push_of_closed closed]
    exact .refl _
  · have isOpen : b.queue.closed = false := Bool.eq_false_iff.mpr closed
    have waits : (b.item session request).channel.Waiting :=
      ⟨rfl, fun gone => absurd gone Bool.false_ne_true⟩
    rw [push_of_open isOpen]
    exact .append isOpen waits

end Exchange

end Bridge

/-! ### Servers -/

namespace Server

/-- A connection pushes a request whose session has been found. If that is refused, it tells so and
ends. -/
def offer (s : Server σ) (c : Connection) (session : SessionId) (request : Request) : Server σ :=
  let (pushed, exchange) := s.exchange.push session request
  let s := { s with exchange }
  match pushed with
  | .ok item => s.put { c with waiting := some item.ticket }
  | .error item => s.close (c.write [item.refusal shutdownReason])

/-- **How a connection is served**: the session of the request that has come is found, and then the
request is pushed. -/
theorem serveNext_eq_offer (s : Server σ) {c : Connection} (isOpen : c.isOpen = true)
    (idle : c.waiting = none) {request : Request} {rest : Bytes}
    (next : c.next? = some (.ok (request, rest))) :
    let (session, registry, owned) := s.exchange.registry.resolve c.owned request.session
    s.serveNext c =
      offer { s with exchange := { s.exchange with registry } }
        { c with input := rest, owned } session request := by
  rw [serveNext, isOpen, idle, next]
  rfl

/-- A connection that is closed or waits does not go on. -/
lemma serveNext_of_not {s : Server σ} {c : Connection} (idle : ¬(c.isOpen = true ∧ c.waiting = none)) :
    s.serveNext c = s.put c := by
  have rests : (!c.isOpen || c.waiting.isSome) = true := by
    by_contra both
    simp at both
    exact idle both
  rw [serveNext, if_pos rests]

/-- The server after its connections have gone on for a while. -/
structure Onward (s s' : Server σ) : Prop where
  steady : Steady s s'
  portFile : s'.portFile = s.portFile
  refusing : s'.refusing = s.refusing
  /-- A server that accepts nobody tracks nobody else. -/
  tracked : s.refusing = true → s'.tracked ⊆ s.tracked
  queue : s.exchange.queue.Onward s'.exchange.queue

namespace Onward

variable {s s' s'' : Server σ}

lemma refl (s : Server σ) : Onward s s := ⟨.refl s, rfl, rfl, fun _ _ mem => mem, .refl _⟩

lemma trans (h : Onward s s') (h' : Onward s' s'') : Onward s s'' where
  steady := h.steady.trans h'.steady
  portFile := h'.portFile.trans h.portFile
  refusing := h'.refusing.trans h.refusing
  tracked refuses := List.Subset.trans (h'.tracked (h.refusing.trans refuses)) (h.tracked refuses)
  queue := h.queue.trans h'.queue

end Onward

lemma onward_put (s : Server σ) (c : Connection) : Onward s (s.put c) :=
  ⟨steady_put s c, rfl, rfl, fun _ _ mem => mem, .refl _⟩

lemma onward_close (s : Server σ) (c : Connection) : Onward s (s.close c) :=
  ⟨steady_close s c, rfl, rfl, fun _ _ mem => List.mem_of_mem_erase mem, .refl _⟩

/-- The sessions that are registered change. -/
lemma onward_registry (s : Server σ) (registry : Registry) :
    Onward s { s with exchange := { s.exchange with registry } } :=
  ⟨⟨rfl, rfl, rfl, rfl⟩, rfl, rfl, fun _ _ mem => mem, .refl _⟩

/-- A receiver does something to its channel. -/
lemma onward_onChannel (s : Server σ) {f : ReplyChannel → ReplyChannel}
    (keeps : ∀ c, c.Waiting → (f c).Waiting) (ticket : Nat) :
    Onward s
      { s with exchange := { s.exchange with queue := s.exchange.queue.onChannel ticket f } } :=
  ⟨⟨rfl, rfl, rfl, rfl⟩, rfl, rfl, fun _ _ mem => mem, .onChannel keeps ticket⟩

lemma onward_offer (s : Server σ) (c : Connection) (session : SessionId) (request : Request) :
    Onward s (s.offer c session request) := by
  have pushed : Onward s { s with exchange := (s.exchange.push session request).2 } :=
    ⟨⟨rfl, rfl, Exchange.running_push _ _ _, rfl⟩, rfl, rfl, fun _ _ mem => mem,
      Exchange.onward_push _ _ _⟩
  rw [offer]
  dsimp only
  split
  · exact pushed.trans (onward_put _ _)
  · exact pushed.trans (onward_close _ _)

lemma onward_serveNext (s : Server σ) (c : Connection) : Onward s (s.serveNext c) := by
  by_cases served : c.isOpen = true ∧ c.waiting = none
  · obtain ⟨isOpen, idle⟩ := served
    cases next : c.next? with
    | none =>
        rw [serveNext, isOpen, idle, next]
        exact onward_put s c
    | some result =>
        cases result with
        | error fault =>
            rw [serveNext, isOpen, idle, next]
            exact onward_close s c
        | ok frame =>
            rw [serveNext_eq_offer s isOpen idle next]
            exact (onward_registry s _).trans (onward_offer _ _ _ _)
  · rw [serveNext_of_not served]
    exact onward_put s c

lemma onward_onConnection (s : Server σ) (id : Nat) (f : Connection → Connection) :
    Onward s (s.onConnection id f) := by
  rw [onConnection]
  split
  · exact onward_serveNext s _
  · exact .refl s

lemma onward_deliver (s : Server σ) (item : WorkItem) : Onward s (s.deliver item) := by
  rw [deliver]
  split
  · exact .refl s
  · dsimp only
    split
    · exact onward_serveNext s _
    · exact onward_close s _

lemma onward_foldl_deliver (s : Server σ) (items : List WorkItem) :
    Onward s (items.foldl deliver s) := by
  induction items generalizing s with
  | nil => exact .refl s
  | cons item items ih => exact (onward_deliver s item).trans (ih _)

lemma onward_accept (s : Server σ) : Onward s s.accept.2 := by
  rw [accept]
  split
  · exact .refl s
  · next accepts =>
    exact ⟨⟨rfl, rfl, rfl, rfl⟩, rfl, rfl, fun refuses => absurd refuses accepts, .refl _⟩

lemma onward_hangUp (s : Server σ) (id : Nat) : Onward s (s.hangUp id) := by
  rw [hangUp]
  split
  · exact .refl s
  · next c _ =>
    dsimp only
    split
    · exact (onward_close s c).trans
        (onward_onChannel _ (fun c _ => c.waiting_hangUp) _)
    · exact onward_close s c

lemma onward_serve (s : Server σ) (t : Traffic) : Onward s (s.serve t) := by
  cases t with
  | accept => exact onward_accept s
  | receive id bytes => exact onward_onConnection s id _
  | endInput id => exact onward_onConnection s id _
  | hangUp id => exact onward_hangUp s id

/-! ### Steps of connections -/

/-- What a thread of a connection does in one go. -/
inductive Move where
  /-- A client does something, and its connection goes on as far as it can. -/
  | client (t : Traffic)
  /-- A connection goes on as far as it can. -/
  | goOn (id : Nat)
  /-- The answer to a settled item is written, and its connection goes on. -/
  | relay (item : WorkItem)
  /-- The session of a request is found. -/
  | resolve (o : Owned) (requested : Option String)
  /-- A request is pushed whose session has been found. -/
  | offer (c : Connection) (session : SessionId) (request : Request)
  /-- A connection wants nothing more of the answer it waits for. -/
  | abandon (ticket : Nat)
  /-- A connection ends. -/
  | leave (c : Connection)

/-- One step of a connection. -/
def move (s : Server σ) : Move → Server σ
  | .client t => s.serve t
  | .goOn id => s.onConnection id fun c => c
  | .relay item => s.deliver item
  | .resolve o requested =>
    let registry := (s.exchange.registry.resolve o requested).2.1
    { s with exchange := { s.exchange with registry } }
  | .offer c session request => s.offer c session request
  | .abandon ticket =>
    let queue := s.exchange.queue.onChannel ticket ReplyChannel.abandon
    { s with exchange := { s.exchange with queue } }
  | .leave c => s.close c

/-- Steps of connections in a row. -/
def moves (s : Server σ) (ms : List Move) : Server σ := ms.foldl move s

/-- What a tick does not answer goes on waiting. -/
lemma waiting_tick (ev : Evaluator σ) (s : Server σ) (waiting : s.exchange.queue.Waiting) :
    (s.tick ev).2.exchange.queue.Waiting := by
  have left : (s.exchange.tick ev).2.2.queue.Waiting := fun item mem =>
    waiting item (Exchange.queue_tick ev s.exchange mem)
  exact (onward_foldl_deliver { s with exchange := (s.exchange.tick ev).2.2 } _).queue.waiting left

end Server

end HostedRepl
