/-
The work of the host.

Every item that a pump takes is in the hand of the host until it is counted,
as answered or as dropped, and a pump returns how many it has answered.

* `Event.pumped`: the items that a pump takes.
* `Labour`, `Site.act_labour`: what a step can do to the counts and the host.
* `Site.run_count`: the counts of all pumps together.
* `Site.run_returned`: what one pump returns.
* `Site.run_conserves`: **no work item is lost**, from its push to its count.
-/
import Mathlib.Tactic
import HostedRepl.Proofs.Bridge.Queue

namespace HostedRepl.Bridge

open Wire (Request)

namespace Event

/-- The items that a pump took out of the queue. -/
def pumped : Event → List WorkItem
  | .taken items => items
  | _ => []

/-- A pump has ended. -/
def endsPump : Event → Bool
  | .returned _ => true
  | .panicked _ => true
  | _ => false

end Event

/-! ### The host -/

/-- The number of items that the pump under way has answered. -/
def Host.answered : Host → Nat
  | .answering answered _ => answered
  | _ => 0

/-- What a step can do to the counts and the host. -/
inductive Labour : Stats → Host → Event → Stats → Host → Prop where
  /-- Nothing. -/
  | none {stats : Stats} {host : Host} {e : Event} : e.pumped = [] → e.endsPump = false →
      Labour stats host e stats host
  /-- The receiver of the answer to an item in hand gives up. -/
  | touched {stats : Stats} {host : Host} (t : Nat) {f : ReplyChannel → ReplyChannel} :
      GivesUp f → Labour stats host .quiet stats (host.onChannel t f)
  /-- A pump begins; a tick is counted. -/
  | begun {stats : Stats} (ticks : Nat) (ids : List SessionId) :
      Labour stats .idle .quiet { stats with ticks } (.closing ids)
  | closed {stats : Stats} {id : SessionId} {ids : List SessionId} :
      Labour stats (.closing (id :: ids)) .quiet stats (.closing ids)
  | panicked {stats : Stats} {ids : List SessionId} (p : Panic) :
      Labour stats (.closing ids) (.panicked p) stats .idle
  | taken {stats : Stats} (items : List WorkItem) :
      Labour stats (.closing []) (.taken items) stats (.answering 0 items)
  | answered {stats : Stats} {n : Nat} {item : WorkItem} {items : List WorkItem}
      (after : WorkItem) : Labour stats (.answering n (item :: items)) (.settled item after)
        { stats with processed := stats.processed + 1 } (.answering (n + 1) items)
  | dropped {stats : Stats} {n : Nat} {item : WorkItem} {items : List WorkItem}
      (after : WorkItem) : Labour stats (.answering n (item :: items)) (.settled item after)
        { stats with abandoned := stats.abandoned + 1 } (.answering n items)
  | returned {stats : Stats} {n : Nat} : Labour stats (.answering n []) (.returned n) stats .idle

namespace Labour

variable {stats stats' : Stats} {host host' : Host} {e : Event}

lemma inHand_onChannel (host : Host) (t : Nat) (f : ReplyChannel → ReplyChannel) :
    (host.onChannel t f).inHand.length = host.inHand.length ∧
      (host.onChannel t f).answered = host.answered := by
  cases host with
  | idle => exact ⟨rfl, rfl⟩
  | closing ids => exact ⟨rfl, rfl⟩
  | answering n items => exact ⟨List.length_map _, rfl⟩

/-- Every item taken by a pump is in hand until it is counted. -/
lemma count (labour : Labour stats host e stats' host') :
    stats'.processed + stats'.abandoned + host'.inHand.length =
      stats.processed + stats.abandoned + host.inHand.length + e.pumped.length := by
  cases labour with
  | none pumped _ => rw [pumped]; rfl
  | touched t _ => rw [(inHand_onChannel host t _).1]; rfl
  | begun ticks ids => rfl
  | closed => rfl
  | panicked p => rfl
  | taken items => rfl
  | answered after =>
      simp only [Host.inHand, Event.pumped, List.length_cons, List.length_nil]
      omega
  | dropped after =>
      simp only [Host.inHand, Event.pumped, List.length_cons, List.length_nil]
      omega
  | returned => rfl

/-- During a pump the count of answered items grows with that of the pump. -/
lemma progress (labour : Labour stats host e stats' host') (goesOn : e.endsPump = false) :
    stats'.processed + host.answered = stats.processed + host'.answered := by
  cases labour with
  | none _ _ => rfl
  | touched t _ => rw [(inHand_onChannel host t _).2]
  | begun ticks ids => rfl
  | closed => rfl
  | panicked p => cases goesOn
  | taken items => rfl
  | answered after =>
      simp only [Host.answered]
      omega
  | dropped after => rfl
  | returned => cases goesOn

/-- A pump returns how many items it has answered. -/
lemma result (labour : Labour stats host e stats' host') {n : Nat} (h : e = .returned n) :
    n = host.answered ∧ stats'.processed = stats.processed := by
  cases labour with
  | none _ goesOn => subst h; cases goesOn
  | returned => cases h; exact ⟨rfl, rfl⟩
  | touched _ _ => cases h
  | begun _ _ => cases h
  | closed => cases h
  | panicked _ => cases h
  | taken _ => cases h
  | answered _ => cases h
  | dropped _ => cases h

end Labour

namespace Exchange

variable {σ : Type} {ev : Evaluator σ}

/-- Each item is counted once. -/
lemma process_stats (b : Exchange σ) (item : WorkItem) :
    (b.process ev item).2.2.stats.processed =
        b.stats.processed + (b.process ev item).1.toNat ∧
      (b.process ev item).2.2.stats.abandoned =
        b.stats.abandoned + (!(b.process ev item).1).toNat := by
  rw [process]
  split <;> exact ⟨rfl, rfl⟩

/-- The pump counts as the statistics do. -/
lemma processAll_stats (b : Exchange σ) (k : Nat) (items : List WorkItem) :
    (processAll ev k b items).2.2.stats.processed + k =
      b.stats.processed + (processAll ev k b items).1 := by
  induction items generalizing b k with
  | nil => rfl
  | cons item items ih =>
      have rest := ih (b.process ev item).2.2 (k + (b.process ev item).1.toNat)
      rw [(b.process_stats item).1] at rest
      have cons : processAll ev k b (item :: items) =
          ((processAll ev (k + (b.process ev item).1.toNat) (b.process ev item).2.2 items).1,
            (b.process ev item).2.1 ::
              (processAll ev (k + (b.process ev item).1.toNat) (b.process ev item).2.2 items).2.1,
            (processAll ev (k + (b.process ev item).1.toNat) (b.process ev item).2.2 items).2.2) :=
        rfl
      rw [cons]
      dsimp only
      omega

/-- A pump returns the increase of the count of answered items. -/
lemma pumpOnce_stats (b : Exchange σ) {n : Nat} (h : (b.pumpOnce ev).1 = .ok n) :
    (b.pumpOnce ev).2.2.stats.processed = b.stats.processed + n := by
  rw [pumpOnce] at h ⊢
  rcases closed : closeAll ev b.registry.takeRetired.1 b.evaluator with ⟨_ | p, y⟩
  · simp only [closed] at h ⊢
    cases h
    exact processAll_stats _ 0 _
  · simp [closed] at h

end Exchange

namespace Site

variable {σ : Type} {ev : Evaluator σ}

lemma Work.labour {b : Exchange σ} {owned : Nat → Owned} {host : Host} {e : Event} {s : Site σ}
    (work : Work ev b owned host e s) : Labour b.stats host e s.exchange.stats s.host := by
  cases work with
  | idle => exact .none rfl rfl
  | closed _ => exact .closed
  | @panicked _ _ p _ _ => exact .panicked p
  | taken => exact .taken _
  | settled =>
      simp only [Exchange.process]
      split
      · exact .dropped _
      · exact .answered _
  | returned => exact .returned

variable (ev) in
lemma labour_push (s : Site σ) (session : SessionId) (request : Request) :
    Labour s.exchange.stats s.host (s.act ev (.push session request)).1
      (s.act ev (.push session request)).2.exchange.stats s.host := by
  simp only [act]
  rw [Exchange.push_frame]
  exact .none rfl rfl

variable (ev) in
/-- **What a step does to the counts and the host.** -/
theorem act_labour (s : Site σ) (a : Action) :
    Labour s.exchange.stats s.host (s.act ev a).1 (s.act ev a).2.exchange.stats
      (s.act ev a).2.host := by
  cases a with
  | resolve conn requested => exact .none rfl rfl
  | push session request =>
      exact labour_push ev s session request
  | send conn request =>
      rw [act_send]
      exact labour_push ev (s.act ev (.resolve conn request.session)).2 _ request
  | disconnect conn => exact .none rfl rfl
  | abandon ticket => exact .touched ticket (.inl rfl)
  | hangUp ticket => exact .touched ticket (.inr rfl)
  | pump =>
      obtain ⟨b, owned, host⟩ := s
      cases host with
      | idle => exact .begun _ _
      | closing ids => exact .none rfl rfl
      | answering n items => exact .none rfl rfl
  | tick =>
      obtain ⟨b, owned, host⟩ := s
      cases host with
      | idle =>
          by_cases running : b.running = true
          · rw [act_tick _ rfl running]
            exact .begun _ _
          · simp only [act, running]
            exact .none rfl rfl
      | closing ids => exact .none rfl rfl
      | answering n items => exact .none rfl rfl
  | work => exact (work_sound ev s).labour
  | drain =>
      obtain ⟨b, owned, host⟩ := s
      cases host with
      | idle => exact .none rfl rfl
      | closing ids => exact .none rfl rfl
      | answering n items => exact .none rfl rfl
  | cancel reason => exact .none rfl rfl
  | halt => exact .none rfl rfl

/-! ### Runs -/

variable (ev) in
/-- **What a pump returns** is by how much the count of answered items has grown since the host was
idle, whatever others do meanwhile. -/
theorem run_returned (s : Site σ) (idle : s.host = .idle) (as : List Action)
    (goesOn : ∀ e ∈ (s.run ev as).1, e.endsPump = false) {a : Action} {n : Nat}
    (returned : ((s.run ev as).2.act ev a).1 = .returned n) :
    ((s.run ev as).2.act ev a).2.exchange.stats.processed = s.exchange.stats.processed + n := by
  -- the count of the pump under way starts at zero, as the host was idle
  have meanwhile : s.run ev as |>.2.exchange.stats.processed =
      s.exchange.stats.processed + (s.run ev as).2.host.answered := by
    refine run_invariant (P := fun es s' => (∀ e ∈ es, e.endsPump = false) →
      s'.exchange.stats.processed = s.exchange.stats.processed + s'.host.answered)
      (fun _ => by rw [idle]; rfl) (fun es s' a ih goesOn => ?_) as goesOn
    have before := ih fun e he => goesOn e (List.mem_append_left _ he)
    have step := (act_labour ev s' a).progress (goesOn _ (by simp))
    omega
  obtain ⟨rfl, same⟩ := (act_labour ev (s.run ev as).2 a).result returned
  rw [same, meanwhile]

variable (ev) (source : Nat → SessionId) (x : σ) (interval : Duration)

/-- The counts add up to the items that pumps have taken and no longer have in hand. -/
theorem run_count (as : List Action) :
    let r := (start source x interval).run ev as
    r.2.exchange.stats.processed + r.2.exchange.stats.abandoned + r.2.host.inHand.length =
      (r.1.flatMap Event.pumped).length := by
  refine run_invariant (P := fun es s =>
    s.exchange.stats.processed + s.exchange.stats.abandoned + s.host.inHand.length =
      (es.flatMap Event.pumped).length) rfl (fun es s a ih => ?_) as
  rw [(act_labour ev s a).count, ih, List.flatMap_append, List.length_append,
    List.flatMap_singleton]

/-- **No work item is lost.** In every run, whoever acts when:
what has left the queue, in the order in which it left, followed by what is still in it, is what
was accepted, in the order in which it was, each item once;
the next item pushed is handed back as it is if the queue was closed before, and kept if not, and
once closed the queue is empty for good;
the counts of answered and dropped items add up to what pumps have taken, less what is in hand, and
a pump, interrupted or not, returns by how much the count of answered items has grown. -/
theorem run_conserves (as : List Action) :
    let r := (start source x interval).run ev as
    (r.1.flatMap Event.removed ++ r.2.exchange.queue.items).map WorkItem.ident =
        (r.1.flatMap Event.accepted).map WorkItem.ident ∧
      ((r.1.flatMap Event.accepted).map WorkItem.ticket).Nodup ∧
    (∀ a item answer, (r.2.act ev a).1 = .pushed item answer →
        answer = if r.1.any Event.closes then .error item else .ok item) ∧
      (r.1.any Event.closes = true → r.2.exchange.queue = ⟨[], true⟩) ∧
    r.2.exchange.stats.processed + r.2.exchange.stats.abandoned + r.2.host.inHand.length =
        (r.1.flatMap Event.pumped).length ∧
      (r.2.host = .idle → ∀ bs a n, (∀ e ∈ (r.2.run ev bs).1, e.endsPump = false) →
        ((r.2.run ev bs).2.act ev a).1 = .returned n →
        ((r.2.run ev bs).2.act ev a).2.exchange.stats.processed =
          r.2.exchange.stats.processed + n) ∧
      ∀ n, (r.2.exchange.pumpOnce ev).1 = .ok n →
        (r.2.exchange.pumpOnce ev).2.2.stats.processed = r.2.exchange.stats.processed + n := by
  intro r
  obtain ⟨closed, empty⟩ := run_closed ev source x interval as
  refine ⟨run_order ev source x interval as, ?_, ?_, ?_, run_count ev source x interval as, ?_, ?_⟩
  · exact (run_tickets ev source x interval as).1.imp Nat.ne_of_lt
  · intro a item answer pushed
    rw [← closed]
    exact (act_turn ev r.2 a).answer pushed
  · intro isClosed
    rw [← closed] at isClosed
    rw [← isClosed, ← empty isClosed]
  · intro idle bs a n goesOn returned
    exact run_returned ev r.2 idle bs goesOn returned
  · intro n
    exact r.2.exchange.pumpOnce_stats

/-- A connection asks for a list of the sessions. -/
def asks : Action := .send 0 (Request.forOp "ls-sessions")

/-- Four requests. The first one is drained, the second one is answered in a pump, the third one
comes in meanwhile and is in the queue as this is closed, and the last one comes too late. -/
def fourRequests : List Action :=
  [asks, .drain, asks, .pump, .work, asks, .work, .work, .cancel "over", asks]

/-- The first three of them leave the queue, each in its way, and every other one is refused. -/
theorem run_conserves_four :
    let r := (start (SessionId.numbered 0) Lisp.Runtime.start ⟨0⟩).run .ofRuntime fourRequests
    (r.1.map fun e => e.removed.map WorkItem.ticket) =
        [[], [0], [], [], [1], [], [], [], [2], []] ∧
      (r.1.flatMap Event.removed).map WorkItem.ident =
        (r.1.flatMap Event.accepted).map WorkItem.ident ∧
      r.2.exchange.queue = ⟨[], true⟩ ∧
      r.2.exchange.stats.processed + r.2.exchange.stats.abandoned = 1 ∧
      ∀ a item answer, (r.2.act .ofRuntime a).1 = .pushed item answer → answer = .error item := by
  intro r
  have closes : r.1.any Event.closes = true := by decide +kernel
  have pumped : (r.1.flatMap Event.pumped).length = 1 := by decide +kernel
  have idle : r.2.host.inHand.length = 0 := by decide +kernel
  obtain ⟨order, -, handed, closed, count, -, -⟩ :=
    run_conserves .ofRuntime (SessionId.numbered 0) Lisp.Runtime.start ⟨0⟩ fourRequests
  have queue := closed closes
  refine ⟨by decide +kernel, ?_, queue, ?_, fun a item answer pushed => ?_⟩
  · rw [queue, List.append_nil] at order
    exact order
  · rw [pumped, idle, Nat.add_zero] at count
    exact count
  · have refused := handed a item answer pushed
    rwa [closes, if_pos rfl] at refused

end Site

end HostedRepl.Bridge
