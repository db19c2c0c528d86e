/-
A scheduler at work.

While a task ticks it may itself register and unregister tasks and run others.
So a run is not one step: the runs that are under way lie inside one another,
and each of them has tasks that have left the table and wait for their turn.
A panic breaks off the innermost run, and whatever that has in its hands is
lost.

* `finish_cases`: what the end of a tick can be; `of_finish_ok`, `of_finish_error`:
  with and without a panic.
* `Batch`, `Activity`: a run that is under way; a scheduler with those that
  are, the innermost first.
* `Move`, `Event`, `Activity.act`: one step, and what is seen of it.
* `Activity.act_next_cases`, `act_finish_cases`: what the steps of a run can do.
* `Activity.tasks`: all tasks, in the table and in the hands of runs.
* `Activity.run`: steps in a row; `run_invariant`: what every step keeps holds
  after every run; `Activity.Reaches`: one of them leads there.
* `Balanced`: what a program does to the scheduler is some steps after which
  the same runs are under way as before.
* `Balanced.runBatch`: **a run is balanced** if the ticks of its tasks are,
  however deep these nest.
-/
import HostedRepl.Proofs.Scheduler.Hosted

namespace HostedRepl.Scheduler

/-! ### The end of a tick -/

/-- **What the end of a tick can be**: the task was unregistered meanwhile, or it is put back, or
there is no moment for that, or it wants to stop. -/
theorem finish_cases {τ : Type} (s : Scheduler τ) (entry : Entry τ) (control : TickControl)
    (now : Moment) :
    let left := s.running.erase entry.handle
    (entry.handle ∈ s.cancelled ∧ s.finish entry control now =
      (.ok false, { s with running := left, cancelled := s.cancelled.erase entry.handle })) ∨
    (∃ after due, entry.handle ∉ s.cancelled ∧ control = .again after ∧
      now.after? after = some due ∧ s.finish entry control now =
        (.ok true, { s with running := left, entries := insert { entry with due } s.entries })) ∨
    (∃ after, entry.handle ∉ s.cancelled ∧ control = .again after ∧ now.after? after = none ∧
      s.finish entry control now = (.error ⟨⟩, { s with running := left })) ∨
    (entry.handle ∉ s.cancelled ∧ control = .stop ∧
      s.finish entry control now = (.ok false, { s with running := left })) := by
  intro left
  by_cases cancelled : entry.handle ∈ s.cancelled
  · have noted : s.cancelled.contains entry.handle = true := List.contains_iff_mem.mpr cancelled
    exact .inl ⟨cancelled, if_pos noted⟩
  · refine .inr ?_
    cases control with
    | again after =>
      cases reached : now.after? after with
      | some due =>
        exact .inl ⟨after, due, cancelled, rfl, reached, by simp [finish, cancelled, reached, left]⟩
      | none =>
        exact .inr (.inl
          ⟨after, cancelled, rfl, reached, by simp [finish, cancelled, reached, left]⟩)
    | stop => exact .inr (.inr ⟨cancelled, rfl, by simp [finish, cancelled, left]⟩)

section Finish

variable {τ : Type} {s s' : Scheduler τ} {entry : Entry τ} {control : TickControl} {now : Moment}

/-- The run goes on: the task was unregistered meanwhile, is put back, or wants to stop. -/
lemma of_finish_ok {kept : Bool} (finished : s.finish entry control now = (.ok kept, s')) :
    let left := s.running.erase entry.handle
    (entry.handle ∈ s.cancelled ∧
      s' = { s with running := left, cancelled := s.cancelled.erase entry.handle }) ∨
    (∃ after due, entry.handle ∉ s.cancelled ∧ control = .again after ∧
      now.after? after = some due ∧
      s' = { s with running := left, entries := insert { entry with due } s.entries }) ∨
    (entry.handle ∉ s.cancelled ∧ control = .stop ∧ s' = { s with running := left }) := by
  intro left
  obtain ⟨cancelled, ended⟩ | ⟨after, due, going, again, reached, ended⟩ | ⟨_, -, -, -, ended⟩ |
      ⟨going, stop, ended⟩ := s.finish_cases entry control now
  · rw [finished] at ended
    exact .inl ⟨cancelled, (Prod.mk.inj ended).2⟩
  · rw [finished] at ended
    exact .inr (.inl ⟨after, due, going, again, reached, (Prod.mk.inj ended).2⟩)
  · rw [finished] at ended
    exact absurd (Prod.mk.inj ended).1 nofun
  · rw [finished] at ended
    exact .inr (.inr ⟨going, stop, (Prod.mk.inj ended).2⟩)

/-- The run breaks off: there is no moment to put the task back for. -/
lemma of_finish_error {o : Overflow} (finished : s.finish entry control now = (.error o, s')) :
    ∃ after, entry.handle ∉ s.cancelled ∧ control = .again after ∧ now.after? after = none ∧
      s' = { s with running := s.running.erase entry.handle } := by
  obtain ⟨-, ended⟩ | ⟨_, _, -, -, -, ended⟩ | ⟨after, going, again, unreached, ended⟩ |
      ⟨-, -, ended⟩ := s.finish_cases entry control now
  · rw [finished] at ended
    exact absurd (Prod.mk.inj ended).1 nofun
  · rw [finished] at ended
    exact absurd (Prod.mk.inj ended).1 nofun
  · rw [finished] at ended
    exact ⟨after, going, again, unreached, (Prod.mk.inj ended).2⟩
  · rw [finished] at ended
    exact absurd (Prod.mk.inj ended).1 nofun

end Finish

/-! ### Steps -/

/-- A run that is under way. -/
structure Batch (τ : Type) where
  now : Moment
  /-- The task that is ticking. -/
  ticking : Option (Entry τ)
  /-- Those that are still to tick. -/
  waiting : List (Entry τ)

/-- The tasks in the hands of a run. -/
def Batch.tasks {τ : Type} (b : Batch τ) : List (Entry τ) := b.ticking.toList ++ b.waiting

/-- The handles in the hands of a run. -/
def Batch.inHand {τ : Type} (b : Batch τ) : List Handle := b.tasks.map Entry.handle

/-- A scheduler with the runs that are under way, the innermost first. -/
structure Activity (τ : Type) where
  scheduler : Scheduler τ
  batches : List (Batch τ)

/-- What somebody does: the host when no run is under way, or else a task that ticks. -/
inductive Move (τ : Type) where
  | register (task : τ) (now : Moment) (interval : Duration)
  | unregister (handle : Handle)
  /-- A run begins with the entries that are picked. -/
  | run (now : Moment) (pick : Entry τ → Bool)
  /-- The innermost run lets its next task tick, or ends after the last one. -/
  | next
  /-- The task that ticks in the innermost run ends its tick. -/
  | finish (control : TickControl) (task : τ)
  /-- A panic comes to the innermost run, which breaks off. -/
  | unwind

/-- What is seen of a step. -/
inductive Event where
  | quiet
  | registered (handle : Handle)
  /-- Somebody unregistered a handle, which named a task or did not. -/
  | unregistered (handle : Handle) (succeeded : Bool)
  /-- A tick has ended. -/
  | returned (handle : Handle) (control : TickControl)
  /-- Somebody panics, and these tasks are lost. -/
  | panicked (lost : List Handle)

namespace Activity

variable {τ : Type}

/-- A scheduler without tasks. -/
def start : Activity τ := ⟨.empty, []⟩

/-- One step. A run does not go on while a task of it ticks. -/
def act (a : Activity τ) : Move τ → Event × Activity τ
  | .register task now interval =>
    let (result, scheduler) := a.scheduler.register task now interval
    match result with
    | .ok handle => (.registered handle, { a with scheduler })
    | .error _ => (.panicked [], { a with scheduler })
  | .unregister handle =>
    let (removal, scheduler) := a.scheduler.unregister handle
    (.unregistered handle removal.succeeded, { a with scheduler })
  | .run now pick =>
    let (batch, scheduler) := a.scheduler.take pick
    (.quiet, ⟨scheduler, ⟨now, none, batch⟩ :: a.batches⟩)
  | .next =>
    match a.batches with
    | ⟨now, none, entry :: waiting⟩ :: outer =>
      (.quiet, ⟨a.scheduler.begin entry.handle, ⟨now, some entry, waiting⟩ :: outer⟩)
    | ⟨_, none, []⟩ :: outer => (.quiet, ⟨a.scheduler, outer⟩)
    | _ => (.quiet, a)
  | .finish control task =>
    match a.batches with
    | ⟨now, some entry, waiting⟩ :: outer =>
      let (result, scheduler) := a.scheduler.finish { entry with task } control now
      match result with
      | .ok _ => (.returned entry.handle control, ⟨scheduler, ⟨now, none, waiting⟩ :: outer⟩)
      | .error _ => (.panicked (Batch.inHand ⟨now, some entry, waiting⟩), ⟨scheduler, outer⟩)
    | _ => (.quiet, a)
  | .unwind =>
    match a.batches with
    | batch :: outer => (.panicked batch.inHand, ⟨a.scheduler, outer⟩)
    | [] => (.quiet, a)

/-- A task is registered, if there is a moment for its first tick. Its handle is used up in any
case. -/
lemma act_register_cases (a : Activity τ) (task : τ) (now : Moment) (interval : Duration) :
    let s := { a.scheduler with nextId := a.scheduler.nextId + 1 }
    (∃ due, now.after? interval = some due ∧ a.act (.register task now interval) =
      (.registered ⟨a.scheduler.nextId⟩,
        { a with scheduler :=
          { s with entries := insert ⟨⟨a.scheduler.nextId⟩, due, task⟩ s.entries } })) ∨
    (now.after? interval = none ∧
      a.act (.register task now interval) = (.panicked [], { a with scheduler := s })) := by
  intro s
  cases reached : now.after? interval with
  | some due => exact .inl ⟨due, rfl, by simp only [act, register, reached]; rfl⟩
  | none => exact .inr ⟨rfl, by simp only [act, register, reached]; rfl⟩

/-- The innermost run lets its next task tick or ends after the last one, unless a task ticks or no
run is under way. -/
lemma act_next_cases (a : Activity τ) :
    (∃ s now entry waiting outer, a = ⟨s, ⟨now, none, entry :: waiting⟩ :: outer⟩ ∧
      a.act .next = (.quiet, ⟨s.begin entry.handle, ⟨now, some entry, waiting⟩ :: outer⟩)) ∨
    (∃ s now outer, a = ⟨s, ⟨now, none, []⟩ :: outer⟩ ∧ a.act .next = (.quiet, ⟨s, outer⟩)) ∨
    a.act .next = (.quiet, a) := by
  obtain ⟨s, batches⟩ := a
  rw [act]
  split
  · next now entry waiting outer eq =>
    obtain rfl : batches = ⟨now, none, entry :: waiting⟩ :: outer := eq
    exact .inl ⟨s, now, entry, waiting, outer, rfl, rfl⟩
  · next now outer eq =>
    obtain rfl : batches = ⟨now, none, []⟩ :: outer := eq
    exact .inr (.inl ⟨s, now, outer, rfl, rfl⟩)
  · exact .inr (.inr rfl)

section Finish

variable {s s' : Scheduler τ} {now : Moment} {entry : Entry τ} {waiting : List (Entry τ)}
  {outer : List (Batch τ)} {control : TickControl} {task : τ}

/-- A tick ends, and the run goes on. -/
lemma act_finish_ok {kept : Bool}
    (finished : s.finish { entry with task } control now = (.ok kept, s')) :
    act ⟨s, ⟨now, some entry, waiting⟩ :: outer⟩ (.finish control task) =
      (.returned entry.handle control, ⟨s', ⟨now, none, waiting⟩ :: outer⟩) := by
  simp only [act, finished]

/-- A tick ends and the task cannot be put back, so that the run breaks off. -/
lemma act_finish_error {o : Overflow}
    (finished : s.finish { entry with task } control now = (.error o, s')) :
    act ⟨s, ⟨now, some entry, waiting⟩ :: outer⟩ (.finish control task) =
      (.panicked (Batch.inHand ⟨now, some entry, waiting⟩), ⟨s', outer⟩) := by
  simp only [act, finished]

end Finish

/-- The task that ticks in the innermost run ends its tick, and if it cannot be put back the run
breaks off; or no task ticks there. -/
lemma act_finish_cases (a : Activity τ) (control : TickControl) (task : τ) :
    (∃ s now entry waiting outer kept s', a = ⟨s, ⟨now, some entry, waiting⟩ :: outer⟩ ∧
      s.finish { entry with task } control now = (.ok kept, s') ∧
      a.act (.finish control task) =
        (.returned entry.handle control, ⟨s', ⟨now, none, waiting⟩ :: outer⟩)) ∨
    (∃ s now entry waiting outer o s', a = ⟨s, ⟨now, some entry, waiting⟩ :: outer⟩ ∧
      s.finish { entry with task } control now = (.error o, s') ∧
      a.act (.finish control task) =
        (.panicked (Batch.inHand ⟨now, some entry, waiting⟩), ⟨s', outer⟩)) ∨
    a.act (.finish control task) = (.quiet, a) := by
  obtain ⟨s, batches⟩ := a
  by_cases ticks : ∃ now entry waiting outer, batches = ⟨now, some entry, waiting⟩ :: outer
  · obtain ⟨now, entry, waiting, outer, rfl⟩ := ticks
    cases finished : s.finish { entry with task } control now with
    | mk result s' =>
      cases result with
      | ok kept =>
          exact .inl
            ⟨s, now, entry, waiting, outer, kept, s', rfl, finished, act_finish_ok finished⟩
      | error o =>
          exact .inr (.inl
            ⟨s, now, entry, waiting, outer, o, s', rfl, finished, act_finish_error finished⟩)
  · refine .inr (.inr ?_)
    rw [act]
    split
    · next now entry waiting outer eq => exact absurd ⟨now, entry, waiting, outer, eq⟩ ticks
    · rfl

/-- A panic breaks off the innermost run, or there is none. -/
lemma act_unwind_cases (a : Activity τ) :
    (∃ s batch outer, a = ⟨s, batch :: outer⟩ ∧
      a.act .unwind = (.panicked batch.inHand, ⟨s, outer⟩)) ∨
    a.act .unwind = (.quiet, a) := by
  obtain ⟨s, batches⟩ := a
  cases batches with
  | nil => exact .inr rfl
  | cons batch outer => exact .inl ⟨s, batch, outer, rfl, rfl⟩

end Activity

/-! ### Tasks -/

namespace Activity

variable {τ : Type}

/-- All tasks: those in the table and those in the hands of runs. -/
def tasks (a : Activity τ) : List (Entry τ) := a.scheduler.entries ++ a.batches.flatMap Batch.tasks

/-- The tasks that are picked change from the table into the hands of a run. -/
lemma perm_tasks_run (a : Activity τ) (now : Moment) (pick : Entry τ → Bool) :
    (a.act (.run now pick)).2.tasks.Perm a.tasks := by
  have parts : (a.scheduler.entries.filter (fun e => !pick e) ++
      a.scheduler.entries.filter pick).Perm a.scheduler.entries :=
    List.perm_append_comm.trans (List.filter_append_perm pick _)
  have moved : (a.act (.run now pick)).2.tasks = a.scheduler.entries.filter (fun e => !pick e) ++
      (a.scheduler.entries.filter pick ++ a.batches.flatMap Batch.tasks) := rfl
  rw [moved, ← List.append_assoc]
  exact parts.append_right _

/-- Steps in a row, and what is seen of them. -/
def run : Activity τ → List (Move τ) → List Event × Activity τ
  | a, [] => ([], a)
  | a, m :: ms =>
    let (e, a) := a.act m
    let (es, a) := run a ms
    (e :: es, a)

lemma run_cons (a : Activity τ) (m : Move τ) (ms : List (Move τ)) :
    a.run (m :: ms) = ((a.act m).1 :: ((a.act m).2.run ms).1, ((a.act m).2.run ms).2) := rfl

lemma run_append (a : Activity τ) (ms ns : List (Move τ)) :
    a.run (ms ++ ns) =
      ((a.run ms).1 ++ ((a.run ms).2.run ns).1, ((a.run ms).2.run ns).2) := by
  induction ms generalizing a with
  | nil => rfl
  | cons m ms ih =>
      rw [List.cons_append, run_cons, ih, run_cons]
      rfl

/-- One more step at the end. -/
lemma run_concat (a : Activity τ) (ms : List (Move τ)) (m : Move τ) :
    a.run (ms ++ [m]) =
      ((a.run ms).1 ++ [((a.run ms).2.act m).1], ((a.run ms).2.act m).2) := by
  rw [run_append]
  rfl

/-- **Invariants of runs**: what holds before anything was seen and is kept by every step holds of
what a run has shown and the activity it leads to. -/
theorem run_invariant {P : List Event → Activity τ → Prop} {a : Activity τ} (init : P [] a)
    (step : ∀ es a m, P es a → P (es ++ [(a.act m).1]) (a.act m).2) (ms : List (Move τ)) :
    P (a.run ms).1 (a.run ms).2 := by
  induction ms using List.reverseRecOn with
  | nil => exact init
  | append_singleton ms m ih =>
      rw [run_concat]
      exact step _ _ m ih

/-- Some steps lead from the one to the other. -/
def Reaches (a a' : Activity τ) : Prop := ∃ ms, (a.run ms).2 = a'

namespace Reaches

variable {a a' a'' : Activity τ}

lemma refl (a : Activity τ) : a.Reaches a := ⟨[], rfl⟩

lemma act (a : Activity τ) (m : Move τ) : a.Reaches (a.act m).2 := ⟨[m], rfl⟩

lemma trans (first : a.Reaches a') (second : a'.Reaches a'') : a.Reaches a'' := by
  obtain ⟨ms, rfl⟩ := first
  obtain ⟨ns, rfl⟩ := second
  exact ⟨ms ++ ns, by rw [run_append]⟩

end Reaches

end Activity

/-! ### Programs -/

variable {τ α β : Type}

/-- What the program does to the scheduler, it does in some of the steps above, and then the same
runs are under way as before, also if it has panicked. -/
def Balanced (x : Hosted (Scheduler τ) α) : Prop :=
  ∀ (s : Scheduler τ) (batches : List (Batch τ)),
    ∃ ms, (Activity.run ⟨s, batches⟩ ms).2 = ⟨(x.run s).2, batches⟩

namespace Balanced

lemma pure (x : α) : Balanced (τ := τ) (pure x) := fun _ _ => ⟨[], rfl⟩

lemma throw (o : Overflow) : Balanced (τ := τ) (α := α) (throw o) := fun _ _ => ⟨[], rfl⟩

lemma bind {x : Hosted (Scheduler τ) α} {f : α → Hosted (Scheduler τ) β} (first : Balanced x)
    (second : ∀ r, Balanced (f r)) : Balanced (x >>= f) := by
  intro s batches
  have run : Activity.Reaches ⟨s, batches⟩ ⟨(x.run s).2, batches⟩ := first s batches
  rw [Hosted.run_bind]
  generalize x.run s = r at run ⊢
  rcases r with ⟨o | r, s'⟩
  · exact run
  · exact run.trans (second r s' batches)

lemma register (task : τ) (now : Moment) (interval : Duration) :
    Balanced (fun s => s.register task now interval : Hosted (Scheduler τ) Handle) := by
  intro s batches
  refine ⟨[.register task now interval], ?_⟩
  change (Activity.act ⟨s, batches⟩ (.register task now interval)).2 =
    ⟨(s.register task now interval).2, batches⟩
  rw [Activity.act]
  rcases s.register task now interval with ⟨_ | _, s'⟩ <;> rfl

lemma unregister (handle : Handle) :
    Balanced (τ := τ) (modifyGetThe (Scheduler τ) fun s => s.unregister handle) :=
  fun _ _ => ⟨[.unregister handle], rfl⟩

variable {tick : Entry τ → Hosted (Scheduler τ) (TickControl × τ)}
  {discard : τ → Hosted (Scheduler τ) Unit}

lemma breakOff (discards : ∀ t, Balanced (discard t)) (entries : List (Entry τ)) (o : Overflow) :
    Balanced (Scheduler.breakOff discard entries o : Hosted (Scheduler τ) α) := by
  have dropped : Balanced (entries.forM fun e => discard e.task) := by
    induction entries with
    | nil => exact pure ()
    | cons e entries ih => exact bind (discards e.task) fun _ => ih
  exact bind dropped fun _ => throw o

/-- The tasks of a batch tick one after another, and then the run is over, or it breaks off. -/
lemma runEntries (ticks : ∀ entry, Balanced (tick entry)) (discards : ∀ t, Balanced (discard t))
    (now : Moment) (entries : List (Entry τ)) (s : Scheduler τ) (outer : List (Batch τ)) :
    Activity.Reaches ⟨s, ⟨now, none, entries⟩ :: outer⟩
      ⟨((Scheduler.runEntries tick discard now entries).run s).2, outer⟩ := by
  induction entries generalizing s with
  | nil => exact .act _ .next
  | cons entry entries ih =>
      -- a panic in the run, which drops the tasks that it has in hand
      have broken (batch : Batch τ) (dropped : List (Entry τ)) (o : Overflow) (s : Scheduler τ) :
          Activity.Reaches ⟨s, batch :: outer⟩
            ⟨((Scheduler.breakOff discard dropped o : Hosted (Scheduler τ) Unit).run s).2, outer⟩ :=
        (Activity.Reaches.act _ .unwind).trans (breakOff discards dropped o s outer)
      have begun : Activity.Reaches ⟨s, ⟨now, none, entry :: entries⟩ :: outer⟩
          ⟨s.begin entry.handle, ⟨now, some entry, entries⟩ :: outer⟩ := .act _ .next
      have ticked := begun.trans
        (ticks entry (s.begin entry.handle) (⟨now, some entry, entries⟩ :: outer))
      simp only [runEntries_cons, scheduler_self, put_self]
      generalize (tick entry).run (s.begin entry.handle) = r at ticked ⊢
      rcases r with ⟨o | ⟨control, task⟩, s'⟩
      · exact ticked.trans (broken _ (entry :: entries) o s')
      have ended := ticked.trans (.act _ (.finish control task))
      dsimp only
      rcases finished : s'.finish { entry with task } control now with ⟨o | kept, s''⟩
      · rw [Activity.act_finish_error finished] at ended
        exact ended.trans (breakOff discards ({ entry with task } :: entries) o s'' outer)
      rw [Activity.act_finish_ok finished] at ended
      cases kept with
      | true => exact ended.trans (ih s'')
      | false =>
        have dropped := ended.trans (discards task s'' (⟨now, none, entries⟩ :: outer))
        dsimp only
        generalize (discard task).run s'' = d at dropped ⊢
        rcases d with ⟨o | _, z⟩
        · exact dropped.trans (broken _ entries o z)
        · exact dropped.trans (ih z)

/-- **A run is balanced** if the ticks of its tasks are, and what is done with those that are not
put back. As the ticks are arbitrary balanced programs, they may hold further runs. -/
theorem runBatch (ticks : ∀ entry, Balanced (tick entry)) (discards : ∀ t, Balanced (discard t))
    (now : Moment) (pick : Entry τ → Bool) :
    Balanced (Scheduler.runBatch tick discard now pick) := by
  intro s batches
  have begun : Activity.Reaches ⟨s, batches⟩
      ⟨(s.take pick).2, ⟨now, none, (s.take pick).1⟩ :: batches⟩ := .act _ (.run now pick)
  rw [runBatch_eq]
  exact begun.trans (runEntries ticks discards now (s.take pick).1 (s.take pick).2 batches)

end Balanced

end HostedRepl.Scheduler
