/-
One pump.

A pump closes the retired sessions, and then answers everything that waits,
unless the closing panics.

* `Exchange.closed`, `answerAll`: the two halves of a pump;
  `pumpOnce_of_calm`, `pumpOnce_of_panic`: what a pump comes to.
* `Exchange.processAll_cons`: items are processed one after another.
* `Exchange.processAll_queue`, `retired_processAll`: what this leaves alone.
* `Exchange.tick_cases`: all that a tick can do; `tick_queue`, `queue_tick`:
  what it makes of the queue.
-/
import Mathlib.Tactic
import HostedRepl.Proofs.Bridge.Closing
import HostedRepl.Proofs.Bridge.Queue

namespace HostedRepl.Bridge.Exchange

variable {σ : Type} (ev : Evaluator σ) (b : Exchange σ)

/-! ### The halves -/

/-- The first half of a pump: the retired sessions are closed. -/
def closed : Exchange σ :=
  { b with
    registry := b.registry.takeRetired.2
    evaluator := (closeAll ev b.registry.retired b.evaluator).2 }

/-- The second half of a pump: everything that waits is processed. -/
def answerAll : List WorkItem × Exchange σ :=
  (processAll ev 0 { b with queue := b.queue.drain.2 } b.queue.items).2

/-- Closing the retired sessions does not panic. -/
def Calm : Prop := (closeAll ev b.registry.retired b.evaluator).1 = none

variable {ev b}

lemma pumpOnce_of_calm (calm : b.Calm ev) : (b.pumpOnce ev).2 = answerAll ev (b.closed ev) := by
  rw [Calm] at calm
  rw [pumpOnce]
  simp only [Registry.takeRetired, closed, calm]
  rfl

/-- A panic leaves all items to the next pump. -/
lemma pumpOnce_of_panic (panics : ¬b.Calm ev) : (b.pumpOnce ev).2 = ([], b.closed ev) := by
  obtain ⟨p, panicked⟩ := Option.ne_none_iff_exists'.mp panics
  rw [pumpOnce]
  simp only [Registry.takeRetired, closed, panicked]

/-- Where nothing is retired there is nothing to close. -/
lemma closed_of_retired (none : b.registry.retired = []) : b.Calm ev ∧ b.closed ev = b := by
  obtain ⟨⟨sessions, retired, source, drawn⟩, queue, running, evaluator, stats, interval,
    nextTicket⟩ := b
  cases none
  exact ⟨rfl, rfl⟩

/-! ### Processing -/

variable (ev b)

/-- An item that somebody waits for is answered. -/
lemma process_of_live {item : WorkItem} (live : item.channel.abandoned = false) :
    let answered := answerTo ev (b.registry.noteOp item.session item.request.id) b.evaluator
      item.session item.request
    b.process ev item =
      (true,
        { item with channel := item.channel.answer (completed item answered.1 answered.2.1) },
        { b with
          registry := answered.2.2.1
          evaluator := answered.2.2.2
          stats := { b.stats with processed := b.stats.processed + 1 } }) := by
  rw [process, if_neg (by simp [live])]

/-- How many items were answered before does not matter. -/
lemma processAll_snd (k : Nat) (items : List WorkItem) :
    (processAll ev k b items).2 = (processAll ev 0 b items).2 := by
  induction items generalizing k b with
  | nil => rfl
  | cons item items ih =>
      have rest (n : Nat) := ih (b.process ev item).2.2 (n + (b.process ev item).1.toNat)
      simp only [processAll, rest]

lemma processAll_cons (item : WorkItem) (items : List WorkItem) :
    let processed := b.process ev item
    let rest := (processAll ev 0 processed.2.2 items).2
    (processAll ev 0 b (item :: items)).2 = (processed.2.1 :: rest.1, rest.2) := by
  intro processed rest
  have same : (processAll ev (0 + processed.1.toNat) processed.2.2 items).2 = rest :=
    processAll_snd ev _ _ items
  rw [← same]
  rfl

/-- Processing items leaves the queue alone. -/
lemma processAll_queue (items : List WorkItem) :
    let b' := (processAll ev 0 b items).2.2
    b'.queue = b.queue ∧ b'.nextTicket = b.nextTicket := by
  induction items generalizing b with
  | nil => exact ⟨rfl, rfl⟩
  | cons item items ih =>
      obtain ⟨queue, ticket⟩ := b.process_queue ev item
      obtain ⟨queue', ticket'⟩ := ih (b.process ev item).2.2
      simp only [processAll_cons]
      exact ⟨queue'.trans queue, ticket'.trans ticket⟩

/-- Processing retires no session. -/
lemma retired_processAll (items : List WorkItem) :
    (processAll ev 0 b items).2.2.registry.retired = b.registry.retired := by
  induction items generalizing b with
  | nil => rfl
  | cons item items ih =>
      simp only [processAll_cons]
      refine (ih _).trans ?_
      by_cases live : item.channel.abandoned = false
      · rw [(b.process_effect ev live).1]
        rcases Operation.registryAfter_cases item.session
          (b.registry.noteOp item.session item.request.id) (operation? item.request) with
          same | same | same <;> rw [same] <;> rfl
      · rw [(b.process_dead ev (by simpa using live)).1]

lemma queue_answerAll : (answerAll ev b).2.queue = b.queue.drain.2 :=
  (processAll_queue ev _ _).1

lemma retired_answerAll : (answerAll ev b).2.registry.retired = b.registry.retired :=
  retired_processAll ev _ _

lemma answerAll_of_nil (none : b.queue.items = []) : answerAll ev b = ([], b) := by
  obtain ⟨registry, ⟨items, closed⟩, running, evaluator, stats, interval, nextTicket⟩ := b
  cases none
  rfl

lemma answerAll_of_singleton {item : WorkItem} (only : b.queue.items = [item]) :
    let processed := { b with queue := b.queue.drain.2 }.process ev item
    answerAll ev b = ([processed.2.1], processed.2.2) := by
  intro processed
  rw [answerAll, only, processAll_cons]
  rfl

/-! ### Ticks -/

/-- The exchange with one more tick. -/
def ticked : Exchange σ := { b with stats := { b.stats with ticks := b.stats.ticks + 1 } }

variable {ev b}

lemma tick_of_calm (running : b.running = true) (calm : b.Calm ev) :
    (b.tick ev).2 = answerAll ev (b.closed ev).ticked := by
  have calm' : b.ticked.Calm ev := calm
  have pumped := pumpOnce_of_calm calm'
  rw [tick, if_pos running]
  exact pumped

lemma tick_of_panic (running : b.running = true) (panics : ¬b.Calm ev) :
    (b.tick ev).2 = ([], (b.closed ev).ticked) := by
  have panics' : ¬b.ticked.Calm ev := panics
  have pumped := pumpOnce_of_panic panics'
  rw [tick, if_pos running]
  exact pumped

/-- A tick with nothing to answer closes the retired sessions. -/
lemma tick_of_nil (running : b.running = true) (none : b.queue.items = []) :
    (b.tick ev).2 = ([], (b.closed ev).ticked) := by
  by_cases calm : b.Calm ev
  · rw [tick_of_calm running calm]
    exact answerAll_of_nil ev _ none
  · exact tick_of_panic running calm

variable (ev b)

/-- A tick does nothing, or closes the retired sessions, or answers what waits as well. -/
lemma tick_cases :
    (b.tick ev).2 = ([], b) ∨ (b.tick ev).2 = ([], (b.closed ev).ticked) ∨
      (b.tick ev).2 = answerAll ev (b.closed ev).ticked := by
  by_cases running : b.running = true
  · by_cases calm : b.Calm ev
    · exact .inr (.inr (tick_of_calm running calm))
    · exact .inr (.inl (tick_of_panic running calm))
  · rw [tick, if_neg running]
    exact .inl rfl

/-- A tick gives out no ticket and does not close the queue. -/
lemma tick_queue :
    (b.tick ev).2.2.queue.closed = b.queue.closed ∧
      (b.tick ev).2.2.nextTicket = b.nextTicket := by
  rcases tick_cases ev b with idle | quiet | answers
  · rw [idle]
    exact ⟨rfl, rfl⟩
  · rw [quiet]
    exact ⟨rfl, rfl⟩
  · rw [answers, queue_answerAll]
    exact ⟨rfl, (processAll_queue ev _ _).2⟩

/-- A tick answers all items that wait, or none. -/
lemma queue_tick : (b.tick ev).2.2.queue.items ⊆ b.queue.items := by
  rcases tick_cases ev b with idle | quiet | answers
  · rw [idle]
    exact List.Subset.refl _
  · rw [quiet]
    exact List.Subset.refl _
  · rw [answers, queue_answerAll]
    exact List.nil_subset _

end HostedRepl.Bridge.Exchange
