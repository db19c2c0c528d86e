/-
Every work item is answered.

* `Site.Untouched`: no reply has been sent to an item that is queued or in
  hand.
* `Site.run_untouched`: so it is after every run.
* `Site.run_answers`: **whatever is processed or cancelled is answered**,
  unless nobody waits for it.
-/
import Mathlib.Tactic
import HostedRepl.Proofs.Bridge.Answer
import HostedRepl.Proofs.Bridge.Labour

namespace HostedRepl.Bridge

open Wire (Request)

/-! ### Channels that wait -/

namespace ReplyChannel

lemma waiting_fresh : fresh.Waiting := ⟨rfl, fun h => nomatch h⟩

/-- Giving up sends nothing. -/
lemma Waiting.givesUp {c : ReplyChannel} {f : ReplyChannel → ReplyChannel} (waiting : c.Waiting)
    (h : GivesUp f) : (f c).Waiting := by
  rcases h with rfl | rfl
  · exact ⟨waiting.pending, fun _ => rfl⟩
  · exact ⟨rfl, fun _ => rfl⟩

end ReplyChannel

/-- Nothing has been sent to any of the items. -/
def AllWait (items : List WorkItem) : Prop := ∀ item ∈ items, item.channel.Waiting

namespace AllWait

variable {items : List WorkItem}

lemma nil : AllWait [] := fun _ h => absurd h List.not_mem_nil

lemma onChannel (h : AllWait items) (t : Nat) {f : ReplyChannel → ReplyChannel}
    (gives : GivesUp f) : AllWait (items.map fun item => item.onChannel t f) := by
  intro item mem
  obtain ⟨old, here, rfl⟩ := List.mem_map.mp mem
  rw [WorkItem.onChannel]
  split
  · exact (h old here).givesUp gives
  · exact h old here

end AllWait

/-- A step keeps the queued items waiting. -/
lemma Turn.allWait {q q' : WorkQueue} {ticket ticket' : Nat} {e : Event}
    (turn : Turn q ticket e q' ticket') (h : AllWait q.items) : AllWait q'.items := by
  cases turn with
  | none _ _ _ _ => exact h
  | touched t gives => exact h.onChannel t gives
  | accepted _ _ fresh =>
      intro item mem
      rcases List.mem_append.mp mem with mem | mem
      · exact h item mem
      · rw [List.mem_singleton.mp mem, fresh]
        exact ReplyChannel.waiting_fresh
  | refused _ => exact h
  | taken => exact .nil
  | drained => exact .nil
  | cancelled _ => exact .nil

/-- A pump takes items of the queue. -/
lemma Turn.pumped {q q' : WorkQueue} {ticket ticket' : Nat} {e : Event}
    (turn : Turn q ticket e q' ticket') : e.pumped = [] ∨ e.pumped = q.items := by
  cases turn with
  | @none e _ removed _ _ =>
      cases e with
      | taken items => exact .inl removed
      | _ => exact .inl rfl
  | touched _ _ => exact .inl rfl
  | accepted _ _ _ => exact .inl rfl
  | refused _ => exact .inl rfl
  | taken => exact .inr rfl
  | drained => exact .inl rfl
  | cancelled _ => exact .inl rfl

/-- A step keeps the items in hand waiting. -/
lemma Labour.allWait {stats stats' : Stats} {host host' : Host} {e : Event}
    (labour : Labour stats host e stats' host') (h : AllWait host.inHand) (new : AllWait e.pumped) :
    AllWait host'.inHand := by
  cases labour with
  | none _ _ => exact h
  | touched t gives =>
      cases host with
      | idle => exact h
      | closing ids => exact h
      | answering n items => exact h.onChannel t gives
  | begun _ _ => exact .nil
  | closed => exact .nil
  | panicked _ => exact .nil
  | taken items => exact new
  | answered _ => exact fun item mem => h item (List.mem_cons_of_mem _ mem)
  | dropped _ => exact fun item mem => h item (List.mem_cons_of_mem _ mem)
  | returned => exact .nil

namespace Exchange

variable {σ : Type} (ev : Evaluator σ)

/-- Items that are processed in a row are answered, each unless nobody waits for it. -/
lemma processAll_answers (b : Exchange σ) (k : Nat) {items : List WorkItem} (h : AllWait items) :
    List.Forall₂ (fun item after => item.channel.abandoned = false →
      ∃ frames, AnsweredWith item after frames) items (processAll ev k b items).2.1 := by
  induction items generalizing b k with
  | nil => exact .nil
  | cons item items ih =>
      exact .cons (fun live => b.process_answers ev item (h item (by simp)) live)
        (ih _ _ fun item mem => h item (List.mem_cons_of_mem _ mem))

end Exchange

namespace Site

variable {σ : Type} (ev : Evaluator σ)

/-- Nothing has been sent to the items that are queued or in hand. -/
structure Untouched (s : Site σ) : Prop where
  queued : AllWait s.exchange.queue.items
  inHand : AllWait s.host.inHand

variable (source : Nat → SessionId) (x : σ) (interval : Duration) (as : List Action)

/-- **No item gets a reply before its turn.** -/
theorem run_untouched : ((start source x interval).run ev as).2.Untouched := by
  have init : (start source x interval).Untouched := ⟨.nil, .nil⟩
  refine run_invariant (P := fun _ s => s.Untouched) init (fun _ s a ih => ?_) as
  have turn := act_turn ev s a
  have new : AllWait (s.act ev a).1.pumped := by
    rcases turn.pumped with none | all
    · rw [none]
      exact .nil
    · rw [all]
      exact ih.queued
  exact ⟨turn.allWait ih.queued, (act_labour ev s a).allWait ih.inHand new⟩

variable {ev}

section Work

variable {b : Exchange σ} {owned : Nat → Owned} {host : Host} {e : Event} {s : Site σ}

/-- The work of the host processes the first item in hand. -/
lemma Work.settles (work : Work ev b owned host e s) {item after : WorkItem}
    (h : e = .settled item after) : item ∈ host.inHand ∧ after = (b.process ev item).2.1 := by
  cases work with
  | settled => cases h; exact ⟨List.mem_cons_self .., rfl⟩
  | _ => cases h

lemma Work.not_cancelled (work : Work ev b owned host e s) {items settled : List WorkItem} :
    e ≠ .cancelled items settled := by
  cases work <;> exact nofun

end Work

/-- Only the work of the host processes an item, the first one in hand. -/
lemma act_settled {s : Site σ} {a : Action} {item after : WorkItem}
    (h : (s.act ev a).1 = .settled item after) :
    item ∈ s.host.inHand ∧ after = (s.exchange.process ev item).2.1 := by
  cases a with
  | work => exact (work_sound ev s).settles h
  | pump => rw [act] at h; split at h <;> cases h
  | tick => rw [act] at h; split at h <;> [split at h; skip] <;> cases h
  | drain => rw [act] at h; split at h <;> cases h
  | _ => cases h

/-- Only closing the queue cancels items, all that are queued. -/
lemma act_cancelled {s : Site σ} {a : Action} {items settled : List WorkItem}
    (h : (s.act ev a).1 = .cancelled items settled) :
    items = s.exchange.queue.items ∧ ∃ reason, settled = items.map fun item =>
      { item with channel := item.channel.answer [item.refusal reason] } := by
  cases a with
  | cancel reason =>
      cases h
      exact ⟨rfl, reason, rfl⟩
  | work => exact ((work_sound ev s).not_cancelled h).elim
  | pump => rw [act] at h; split at h <;> cases h
  | tick => rw [act] at h; split at h <;> [split at h; skip] <;> cases h
  | drain => rw [act] at h; split at h <;> cases h
  | _ => cases h

variable (ev)

/-- **Every item is answered.** Whatever has happened before, the item that the host processes next
and each item that is cancelled next, unless nobody waits for it, has its answer on its channel:
responses that all carry the id of the request and the session, the last one and no other with
`done`, and the end of the answer; a cancelled item has one response. The same holds of all items
that a pump without interruption takes. -/
theorem run_answers (a : Action) :
    let s := ((start source x interval).run ev as).2
    (∀ item after, (s.act ev a).1 = .settled item after → item.channel.abandoned = false →
      ∃ frames, AnsweredWith item after frames) ∧
    (∀ items settled, (s.act ev a).1 = .cancelled items settled →
      List.Forall₂ (fun item after => item.channel.abandoned = false →
        ∃ frame, AnsweredWith item after [frame]) items settled) ∧
    ∀ n, (s.exchange.pumpOnce ev).1 = .ok n →
      List.Forall₂ (fun item after => item.channel.abandoned = false →
        ∃ frames, AnsweredWith item after frames)
        s.exchange.queue.items (s.exchange.pumpOnce ev).2.1 := by
  intro s
  obtain ⟨queued, inHand⟩ := run_untouched ev source x interval as
  refine ⟨fun item after h live => ?_, fun items settled h => ?_, fun n h => ?_⟩
  · obtain ⟨mem, rfl⟩ := act_settled h
    exact s.exchange.process_answers ev item (inHand item mem) live
  · obtain ⟨rfl, reason, rfl⟩ := act_cancelled h
    rw [List.forall₂_map_right_iff, List.forall₂_same]
    intro item mem live
    exact ⟨_, Exchange.cancel_answers item reason (queued item mem) live⟩
  · rw [Exchange.pumpOnce] at h ⊢
    rcases closed : Exchange.closeAll ev s.exchange.registry.takeRetired.1
      s.exchange.evaluator with ⟨_ | p, y⟩
    · simp only [closed]
      exact Exchange.processAll_answers ev _ 0 queued
    · simp [closed] at h

/-- Of the four requests the first one has been drained. The second one is processed next and then
answered, and the third one is answered if the queue is closed next. -/
theorem run_answers_four :
    let s := ((start (SessionId.numbered 0) Lisp.Runtime.start ⟨0⟩).run .ofRuntime
      (fourRequests.take 6)).2
    (∃ item after, (s.act .ofRuntime .work).1 = .settled item after ∧ item.ticket = 1 ∧
      ∃ frames, AnsweredWith item after frames) ∧
    ∃ item after, (s.act .ofRuntime (.cancel "over")).1 = .cancelled [item] [after] ∧
      item.ticket = 2 ∧ ∃ frame, AnsweredWith item after [frame] := by
  intro s
  have answers := run_answers .ofRuntime (SessionId.numbered 0) Lisp.Runtime.start ⟨0⟩
    (fourRequests.take 6)
  constructor
  · obtain ⟨item, after, settled, ticket, live⟩ : ∃ item after,
        (s.act .ofRuntime .work).1 = .settled item after ∧ item.ticket = 1 ∧
          item.channel.abandoned = false := ⟨_, _, rfl, by decide +kernel, by decide +kernel⟩
    exact ⟨item, after, settled, ticket, (answers .work).1 item after settled live⟩
  · obtain ⟨item, after, cancelled, ticket, live⟩ : ∃ item after,
        (s.act .ofRuntime (.cancel "over")).1 = .cancelled [item] [after] ∧ item.ticket = 2 ∧
          item.channel.abandoned = false := ⟨_, _, rfl, by decide +kernel, by decide +kernel⟩
    obtain ⟨answered, -⟩ := List.forall₂_cons.mp ((answers (.cancel "over")).2.1 _ _ cancelled)
    exact ⟨item, after, cancelled, ticket, answered live⟩

end Site

end HostedRepl.Bridge
