/-
Batches of work items.

It does not matter when the host pumps: the items that come are answered alike
in whatever batches they are pumped, and those that nobody waits for leave the
others alone. The one thing that does matter is a panic while retired sessions
are closed, which puts the items off to the next pump.

* `Exchange.enqueue`, `pumpBatches`: items that come in, batch by batch, with a
  pump after each batch.
* `Exchange.pumpBatch_of_calm`, `pumpBatch_of_panic`: what the pump of a batch
  comes to.
* `Exchange.answerAll_enqueue`: **answering in two goes** is answering in one.
* `Exchange.Alike`, `Alike.pumpBatches`: two exchanges that differ in items
  nobody waits for; they answer the others alike.
* `Exchange.batches_agree`: **how the items are cut into batches does not
  matter**, nor do items that nobody waits for.
* `Exchange.panic_defers`: what a panic while retired sessions are closed
  changes.
-/
import Mathlib.Tactic
import HostedRepl.Proofs.Bridge.Answer
import HostedRepl.Proofs.Bridge.Pump

namespace HostedRepl.Bridge

open Wire (Request)

variable {σ : Type}

/-- Somebody waits for the answer. -/
def WorkItem.live (item : WorkItem) : Bool := !item.channel.abandoned

namespace Exchange

/-! ### Pumps -/

/-- Items come in, in order. A closed queue takes none of them. -/
def enqueue (b : Exchange σ) (items : List WorkItem) : Exchange σ :=
  { b with queue := items.foldl (fun q item => (q.push item).toOption.getD q) b.queue }

/-- What is in the queue after items have come in. -/
lemma enqueue_eq (b : Exchange σ) (items : List WorkItem) :
    b.enqueue items = { b with queue := { b.queue with
      items := b.queue.items ++ if b.queue.closed then [] else items } } := by
  obtain ⟨registry, ⟨waiting, closed⟩, running, evaluator, stats, interval, nextTicket⟩ := b
  rw [enqueue]
  cases closed with
  | true =>
      have refused : items.foldl (fun q item => (WorkQueue.push q item).toOption.getD q)
          ⟨waiting, true⟩ = ⟨waiting, true⟩ := by
        induction items with
        | nil => rfl
        | cons item items ih => exact ih
      simp [refused]
  | false =>
      have taken : items.foldl (fun q item => (WorkQueue.push q item).toOption.getD q)
          ⟨waiting, false⟩ = ⟨waiting ++ items, false⟩ := by
        induction items generalizing waiting with
        | nil => simp
        | cons item items ih => simpa [WorkQueue.push, Except.toOption] using ih (waiting ++ [item])
      simp [taken]

lemma enqueue_append (b : Exchange σ) (xs ys : List WorkItem) :
    b.enqueue (xs ++ ys) = (b.enqueue xs).enqueue ys := by
  rw [enqueue, enqueue, enqueue, List.foldl_append]

variable (ev : Evaluator σ)

/-- Items come in and are pumped; the items that were settled, and the exchange after it. -/
def pumpBatch (b : Exchange σ) (items : List WorkItem) : List WorkItem × Exchange σ :=
  ((b.enqueue items).pumpOnce ev).2

/-- Items come in batch by batch, and are pumped after each batch. -/
def pumpBatches : Exchange σ → List (List WorkItem) → List WorkItem × Exchange σ
  | b, [] => ([], b)
  | b, items :: batches =>
    let (settled, b) := b.pumpBatch ev items
    let (later, b) := pumpBatches b batches
    (settled ++ later, b)

variable {ev} {b b' : Exchange σ}

/-- The sessions are closed before the items that have come in are looked at. -/
lemma closed_enqueue (items : List WorkItem) :
    (b.enqueue items).closed ev = (b.closed ev).enqueue items := by
  rw [enqueue_eq, enqueue_eq]
  rfl

lemma calm_enqueue (items : List WorkItem) : (b.enqueue items).Calm ev ↔ b.Calm ev := by
  rw [enqueue_eq]
  exact Iff.rfl

lemma pumpBatch_of_calm (calm : b.Calm ev) (items : List WorkItem) :
    b.pumpBatch ev items = answerAll ev ((b.closed ev).enqueue items) := by
  rw [pumpBatch, pumpOnce_of_calm ((calm_enqueue items).mpr calm), closed_enqueue]

lemma pumpBatch_of_panic (panics : ¬b.Calm ev) (items : List WorkItem) :
    b.pumpBatch ev items = ([], (b.closed ev).enqueue items) := by
  have panics' : ¬(b.enqueue items).Calm ev := fun calm => panics ((calm_enqueue items).mp calm)
  rw [pumpBatch, pumpOnce_of_panic panics', closed_enqueue]

/-- Where nothing is retired there is nothing to close. -/
lemma pumpBatch_of_retired (none : b.registry.retired = []) (items : List WorkItem) :
    b.pumpBatch ev items = answerAll ev (b.enqueue items) := by
  obtain ⟨calm, same⟩ := closed_of_retired none
  rw [pumpBatch_of_calm calm, same]

lemma pumpBatches_cons (items : List WorkItem) (batches : List (List WorkItem)) :
    let first := b.pumpBatch ev items
    let rest := pumpBatches ev first.2 batches
    pumpBatches ev b (items :: batches) = (first.1 ++ rest.1, rest.2) := rfl

/-! ### Answering in several goes -/

variable (ev b)

lemma processAll_append (xs ys : List WorkItem) :
    let first := (processAll ev 0 b xs).2
    let rest := (processAll ev 0 first.2 ys).2
    (processAll ev 0 b (xs ++ ys)).2 = (first.1 ++ rest.1, rest.2) := by
  induction xs generalizing b with
  | nil => rfl
  | cons item xs ih =>
      have split := ih (b.process ev item).2.2
      simp only [List.cons_append, processAll_cons] at split ⊢
      rw [split]

lemma answerAll_enqueue_eq (items : List WorkItem) :
    answerAll ev (b.enqueue items) = (processAll ev 0 { b with queue := b.queue.drain.2 }
      (b.queue.items ++ if b.queue.closed then [] else items)).2 := by
  rw [answerAll, enqueue_eq]
  rfl

/-- **Answering in two goes** is answering in one. -/
theorem answerAll_enqueue (items : List WorkItem) :
    let first := answerAll ev b
    let rest := answerAll ev (first.2.enqueue items)
    answerAll ev (b.enqueue items) = (first.1 ++ rest.1, rest.2) := by
  intro first rest
  have queue : first.2.queue = ⟨[], b.queue.closed⟩ := queue_answerAll ev b
  have resumed : rest =
      (processAll ev 0 first.2 (if b.queue.closed then [] else items)).2 := by
    have emptied : { first.2 with queue := first.2.queue.drain.2 } = first.2 := by
      rw [queue, WorkQueue.drain, ← queue]
    have resumed := answerAll_enqueue_eq ev first.2 items
    rwa [emptied, queue, List.nil_append] at resumed
  rw [resumed, answerAll_enqueue_eq, processAll_append]
  rfl

/-! ### Batches -/

variable {ev b}

/-- Where nothing is retired, a pump after each batch is a pump after the last one. -/
lemma pumpBatches_of_retired (none : b.registry.retired = []) (items : List WorkItem)
    (batches : List (List WorkItem)) :
    pumpBatches ev b (items :: batches) = pumpBatch ev b (items ++ batches.flatten) := by
  induction batches generalizing b items with
  | nil => simp [pumpBatches]
  | cons next batches ih =>
      have still : (pumpBatch ev b items).2.registry.retired = [] := by
        rw [pumpBatch_of_retired none, retired_answerAll]
        exact none
      rw [pumpBatches_cons, ih still, pumpBatch_of_retired still, pumpBatch_of_retired none,
        pumpBatch_of_retired none, List.flatten_cons, enqueue_append b,
        answerAll_enqueue ev (b.enqueue items)]

/-- **How the items are cut into batches** does not matter if the retired sessions are closed
without a panic, or if there is another pump after one. -/
theorem pumpBatches_eq {batches : List (List WorkItem)}
    (settles : batches ≠ [] ∧ b.Calm ev ∨ 2 ≤ batches.length) :
    pumpBatches ev b batches = pumpBatch ev (b.closed ev) batches.flatten := by
  have none : (b.closed ev).registry.retired = [] := rfl
  cases batches with
  | nil => simp at settles
  | cons items batches =>
      by_cases calm : b.Calm ev
      · have first : pumpBatch ev b items = pumpBatch ev (b.closed ev) items := by
          rw [pumpBatch_of_calm calm, pumpBatch_of_retired none]
        rw [pumpBatches_cons, first, ← pumpBatches_cons, pumpBatches_of_retired none,
          List.flatten_cons]
      · cases batches with
        | nil => simp [calm] at settles
        | cons next batches =>
            -- the first pump puts its items off
            have waiting : ((b.closed ev).enqueue items).registry.retired = [] := rfl
            rw [pumpBatches_cons, pumpBatch_of_panic calm, pumpBatches_of_retired waiting,
              pumpBatch_of_retired waiting, pumpBatch_of_retired none, List.flatten_cons,
              List.flatten_cons, enqueue_append (b.closed ev)]
            rfl

/-! ### Items that nobody waits for -/

/-- Two exchanges that differ in nothing but items nobody waits for. -/
structure Alike (b b' : Exchange σ) : Prop where
  registry : b'.registry = b.registry
  evaluator : b'.evaluator = b.evaluator
  processed : b'.stats.processed = b.stats.processed
  closed : b'.queue.closed = b.queue.closed
  items : b'.queue.items.filter WorkItem.live = b.queue.items.filter WorkItem.live

namespace Alike

variable {b'' : Exchange σ}

lemma refl (b : Exchange σ) : Alike b b := ⟨rfl, rfl, rfl, rfl, rfl⟩

lemma symm (h : Alike b b') : Alike b' b :=
  ⟨h.registry.symm, h.evaluator.symm, h.processed.symm, h.closed.symm, h.items.symm⟩

lemma trans (h : Alike b b') (h' : Alike b' b'') : Alike b b'' :=
  ⟨h'.registry.trans h.registry, h'.evaluator.trans h.evaluator,
    h'.processed.trans h.processed, h'.closed.trans h.closed, h'.items.trans h.items⟩

variable (ev)

/-- An item that nobody waits for is dropped, and nothing else comes of it. -/
lemma process_dead (h : Alike b b') {item : WorkItem} (dead : item.live = false) :
    (b.process ev item).2.1.live = false ∧ Alike (b.process ev item).2.2 b' := by
  have abandoned : item.channel.abandoned = true := by simpa [WorkItem.live] using dead
  rw [process, if_pos abandoned]
  exact ⟨dead, h.registry, h.evaluator, h.processed, h.closed, h.items⟩

/-- An item that somebody waits for is answered alike. -/
lemma process_live (h : Alike b b') {item : WorkItem} (live : item.live = true) :
    (b'.process ev item).2.1 = (b.process ev item).2.1 ∧ (b.process ev item).2.1.live = true ∧
      Alike (b.process ev item).2.2 (b'.process ev item).2.2 := by
  have wanted : item.channel.abandoned = false := by simpa [WorkItem.live] using live
  have kept (rs : List Wire.Response) :
      WorkItem.live { item with channel := item.channel.answer rs } = true := by
    rw [WorkItem.live, ReplyChannel.abandoned_answer, wanted]
    rfl
  have answered : ¬item.channel.abandoned = true := by simp [wanted]
  rw [process, process, if_neg answered, if_neg answered, h.registry, h.evaluator]
  exact ⟨rfl, kept _, rfl, rfl, congrArg (· + 1) h.processed, h.closed, h.items⟩

/-- Without the items that nobody waits for the others are answered alike. -/
lemma processAll_filter (h : Alike b b') (items : List WorkItem) :
    let all := (processAll ev 0 b items).2
    let live := (processAll ev 0 b' (items.filter WorkItem.live)).2
    live.1 = all.1.filter WorkItem.live ∧ Alike all.2 live.2 := by
  induction items generalizing b b' with
  | nil => exact ⟨rfl, h⟩
  | cons item items ih =>
      by_cases live : item.live = true
      · obtain ⟨same, stays, after⟩ := h.process_live ev live
        obtain ⟨settled, rest⟩ := ih after
        rw [List.filter_cons_of_pos live, processAll_cons, processAll_cons]
        refine ⟨?_, rest⟩
        rw [List.filter_cons_of_pos stays, same, settled]
      · obtain ⟨dropped, after⟩ := h.process_dead ev (Bool.eq_false_iff.mpr live)
        obtain ⟨settled, rest⟩ := ih after
        rw [List.filter_cons_of_neg live, processAll_cons]
        refine ⟨?_, rest⟩
        rw [List.filter_cons_of_neg (Bool.eq_false_iff.mp dropped), settled]

/-- Two exchanges that differ in nothing else answer what waits alike. -/
lemma answerAll (h : Alike b b') :
    (answerAll ev b').1.filter WorkItem.live = (answerAll ev b).1.filter WorkItem.live ∧
      Alike (answerAll ev b).2 (answerAll ev b').2 := by
  have emptied : Alike { b with queue := b.queue.drain.2 } { b' with queue := b'.queue.drain.2 } :=
    ⟨h.registry, h.evaluator, h.processed, h.closed, rfl⟩
  -- both are compared with a run over the items that somebody waits for
  obtain ⟨settled, after⟩ := emptied.processAll_filter ev b.queue.items
  obtain ⟨settled', after'⟩ := (refl { b' with queue := b'.queue.drain.2 }).processAll_filter
    ev b'.queue.items
  rw [h.items] at settled' after'
  exact ⟨settled'.symm.trans settled, after.trans after'.symm⟩

lemma enqueue (h : Alike b b') (items : List WorkItem) :
    Alike (b.enqueue items) (b'.enqueue (items.filter WorkItem.live)) := by
  rw [enqueue_eq, enqueue_eq]
  refine ⟨h.registry, h.evaluator, h.processed, h.closed, ?_⟩
  simp only [List.filter_append, h.items, h.closed]
  split <;> simp

lemma close (h : Alike b b') : (b'.Calm ev ↔ b.Calm ev) ∧ Alike (b.closed ev) (b'.closed ev) := by
  refine ⟨?_, ?_, ?_, h.processed, h.closed, h.items⟩
  · rw [Calm, Calm, h.registry, h.evaluator]
  · rw [Exchange.closed, Exchange.closed, h.registry]
  · rw [Exchange.closed, Exchange.closed, h.registry, h.evaluator]

lemma pumpBatch (h : Alike b b') (items : List WorkItem) :
    let all := pumpBatch ev b items
    let live := pumpBatch ev b' (items.filter WorkItem.live)
    live.1.filter WorkItem.live = all.1.filter WorkItem.live ∧ Alike all.2 live.2 := by
  obtain ⟨iff, closed⟩ := h.close ev
  by_cases calm : b.Calm ev
  · rw [pumpBatch_of_calm calm, pumpBatch_of_calm (iff.mpr calm)]
    exact (closed.enqueue items).answerAll ev
  · rw [pumpBatch_of_panic calm, pumpBatch_of_panic fun calm' => calm (iff.mp calm')]
    exact ⟨rfl, closed.enqueue items⟩

/-- **Items that nobody waits for** leave the others alone. -/
theorem pumpBatches (h : Alike b b') (batches : List (List WorkItem)) :
    let all := pumpBatches ev b batches
    let live := pumpBatches ev b' (batches.map (List.filter WorkItem.live))
    live.1.filter WorkItem.live = all.1.filter WorkItem.live ∧ Alike all.2 live.2 := by
  induction batches generalizing b b' with
  | nil => exact ⟨rfl, h⟩
  | cons items batches ih =>
      obtain ⟨settled, after⟩ := h.pumpBatch ev items
      obtain ⟨later, last⟩ := ih after
      rw [List.map_cons, pumpBatches_cons, pumpBatches_cons]
      refine ⟨?_, last⟩
      rw [List.filter_append, List.filter_append, settled, later]

end Alike

/-! ### Every way of cutting -/

variable (ev)

/-- **How the items are cut into batches does not matter** if the retired sessions are closed
without a panic: a pump after each batch comes to the same as one pump of all items. After a panic
the items are put off, and it takes a second pump. Items that nobody waits for may be left out. -/
theorem batches_agree (b : Exchange σ) (batches : List (List WorkItem)) :
    let cut := pumpBatches ev b batches
    let live := pumpBatches ev b (batches.map (List.filter WorkItem.live))
    (batches ≠ [] → b.Calm ev → cut = pumpBatch ev b batches.flatten) ∧
      (2 ≤ batches.length → cut = pumpBatches ev b [batches.flatten, []]) ∧
      live.1.filter WorkItem.live = cut.1.filter WorkItem.live ∧
      live.2.registry = cut.2.registry ∧ live.2.evaluator = cut.2.evaluator := by
  intro cut live
  obtain ⟨same, after⟩ := (Alike.refl b).pumpBatches ev batches
  refine ⟨fun some calm => ?_, fun several => ?_, same, after.registry, after.evaluator⟩
  · have none : (b.closed ev).registry.retired = [] := rfl
    calc cut
      _ = pumpBatch ev (b.closed ev) batches.flatten := pumpBatches_eq (.inl ⟨some, calm⟩)
      _ = pumpBatch ev b batches.flatten := by
        rw [pumpBatch_of_retired none, pumpBatch_of_calm calm]
  · have twice : 2 ≤ [batches.flatten, []].length := Nat.le_refl 2
    calc cut
      _ = pumpBatch ev (b.closed ev) batches.flatten := pumpBatches_eq (.inr several)
      _ = pumpBatches ev b [batches.flatten, []] := by simp [pumpBatches_eq (.inr twice)]

/-- A registered session, and one that has been retired. -/
def oneRetired : Registry :=
  let (first, r) := (Registry.empty (SessionId.numbered 0)).create .connection
  (r.create .connection).2.retire first

/-- A request for a list of the sessions, in the second one. -/
def listing (ticket : Nat) (channel : ReplyChannel) : WorkItem :=
  ⟨ticket, .numbered 0 1, Request.forOp "ls-sessions", channel⟩

/-- Three requests, one of which nobody waits for, in three batches. -/
theorem batches_agree_abandoned :
    let b := { start (SessionId.numbered 0) Lisp.Runtime.start ⟨0⟩ with registry := oneRetired }
    let batches := [[listing 0 .fresh], [], [listing 1 ReplyChannel.fresh.abandon, listing 2 .fresh]]
    let all := b.pumpBatch .ofRuntime batches.flatten
    b.registry.retired = [.numbered 0 0] ∧
      all.1.map (fun item => item.channel.pending.length) = [2, 0, 2] ∧
      (all.2.stats.processed, all.2.stats.abandoned) = (2, 1) ∧
      b.pumpBatches .ofRuntime batches = all ∧
      b.pumpBatches .ofRuntime batches = b.pumpBatches .ofRuntime [batches.flatten, []] := by
  intro b batches all
  have calm : b.Calm .ofRuntime := rfl
  obtain ⟨once, twice, -⟩ := batches_agree .ofRuntime b batches
  refine ⟨by decide +kernel, by decide +kernel, by decide +kernel, once (List.cons_ne_nil _ _) calm,
    twice (by decide)⟩

/-- The bundled language, but for a panic when a session is closed. -/
def jammed : Evaluator Lisp.Runtime :=
  { Evaluator.ofRuntime with close := fun _ => throw ⟨none⟩ }

/-- **A panic while a retired session is closed** puts the items off: they are answered if a pump
follows each of them, and still wait if one pump follows all. -/
theorem panic_defers :
    let b := { start (SessionId.numbered 0) Lisp.Runtime.start ⟨0⟩ with registry := oneRetired }
    let cut := b.pumpBatches jammed [[listing 0 .fresh], [listing 1 .fresh]]
    let all := b.pumpBatches jammed [[listing 0 .fresh, listing 1 .fresh]]
    cut.1.map (fun item => item.channel.pending.length) = [2, 2] ∧ cut.2.stats.processed = 2 ∧
      all.1 = [] ∧ all.2.stats.processed = 0 := by
  decide +kernel

end Exchange

end HostedRepl.Bridge
