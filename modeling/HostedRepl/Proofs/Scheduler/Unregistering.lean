/-
Unregistering a task.

A task can be unregistered while it waits in the table and while it ticks. In
between, when it has left the table with a run and its turn has not come, it is
in neither place, and unregistering does not find it.

* `Activity.starts`, `started`: the ticks that begin in a step and in steps in
  a row; only queued tasks begin to tick.
* `Outstanding`: a handle that was given out and whose task was not given up;
  `remains_iff`: without a panic, these are the tasks that remain.
* `Sound.unregister_of_found`, `unregister_of_not_found`: which handles are
  found, and that nothing happens for any other one.
* `queued_or_started`: a queued task stays so until its tick begins.
* `unregister_exact`: **what unregistering does** at every moment at which
  nobody has panicked; `queued_not_unregistered`: it can miss a task that then
  ticks.
-/
import HostedRepl.Proofs.Scheduler.Conservation

namespace HostedRepl.Scheduler

variable {τ : Type}

/-- The handle was given out, and its task was not unregistered and did not want to stop. -/
def Outstanding (es : List Event) (h : Handle) : Prop :=
  .registered h ∈ es ∧ .unregistered h true ∉ es ∧ .returned h .stop ∉ es

namespace Activity

/-- A task that remains is outstanding, and so it is the other way round if nobody has panicked. -/
lemma remains_iff {es : List Event} (intact : Intact es) {h : Handle} :
    Remains es h ↔ Outstanding es h := by
  rw [Remains, Outstanding]
  have kept : ∀ lost, .panicked lost ∈ es → h ∉ lost := fun lost mem => absurd mem (intact lost)
  rw [iff_true_intro kept, and_true]

/-! ### Queued tasks -/

/-- The task that begins to tick with a step. -/
def starts (a : Activity τ) : Move τ → List Handle
  | .next =>
    match a.batches with
    | ⟨_, none, entry :: _⟩ :: _ => [entry.handle]
    | _ => []
  | _ => []

/-- The tasks that begin to tick with some steps, in this order. -/
def started : Activity τ → List (Move τ) → List Handle
  | _, [] => []
  | a, m :: ms => a.starts m ++ started (a.act m).2 ms

/-- A task that begins to tick was queued. -/
lemma queued_of_starts {a : Activity τ} {m : Move τ} {h : Handle} (mem : h ∈ a.starts m) :
    h ∈ a.queued := by
  obtain ⟨s, batches⟩ := a
  unfold starts at mem
  split at mem
  · split at mem
    · next now entry waiting outer eq =>
      obtain rfl : batches = ⟨now, none, entry :: waiting⟩ :: outer := eq
      rw [List.mem_singleton.mp mem]
      exact List.mem_cons_self
    · cases mem
  · cases mem

/-- With a step a queued task begins to tick, or it stays queued, or it is lost in a panic. -/
lemma starts_or_queued {a : Activity τ} {h : Handle} (mem : h ∈ a.queued) (m : Move τ) :
    h ∈ a.starts m ∨ h ∈ (a.act m).2.queued ∨ ∃ lost, (a.act m).1 = .panicked lost ∧ h ∈ lost := by
  cases m with
  | register task now interval =>
      obtain ⟨due, -, act⟩ | ⟨-, act⟩ := a.act_register_cases task now interval
      all_goals
        rw [act]
        exact .inr (.inl mem)
  | unregister handle => exact .inr (.inl mem)
  | run now pick => exact .inr (.inl (List.mem_append_right _ mem))
  | next =>
      obtain ⟨s, now, entry, waiting, outer, rfl, act⟩ | ⟨s, now, outer, rfl, act⟩ | act :=
        a.act_next_cases
      · rw [act]
        exact (List.mem_cons.mp mem).imp List.mem_singleton.mpr .inl
      · rw [act]
        exact .inr (.inl mem)
      · rw [act]
        exact .inr (.inl mem)
  | finish control task =>
      obtain ⟨s, now, entry, waiting, outer, _, s', rfl, -, act⟩ |
          ⟨s, now, entry, waiting, outer, _, s', rfl, -, act⟩ | act :=
        a.act_finish_cases control task
      · rw [act]
        exact .inr (.inl mem)
      · rw [act]
        rcases List.mem_append.mp mem with inner | outer
        · exact .inr (.inr ⟨_, rfl, List.mem_cons_of_mem _ inner⟩)
        · exact .inr (.inl outer)
      · rw [act]
        exact .inr (.inl mem)
  | unwind =>
      obtain ⟨s, batch, outer, rfl, act⟩ | act := a.act_unwind_cases
      · rw [act]
        rcases List.mem_append.mp mem with inner | outer
        · refine .inr (.inr ⟨_, rfl, ?_⟩)
          rw [Batch.inHand, Batch.tasks, List.map_append]
          exact List.mem_append_right _ inner
        · exact .inr (.inl outer)
      · rw [act]
        exact .inr (.inl mem)

/-- **A queued task stays so until its tick begins**, whatever is unregistered, unless a panic loses
it. -/
lemma queued_or_started {a : Activity τ} {h : Handle} (mem : h ∈ a.queued) (ms : List (Move τ)) :
    h ∈ a.started ms ∨ h ∈ (a.run ms).2.queued ∨
      ∃ lost, .panicked lost ∈ (a.run ms).1 ∧ h ∈ lost := by
  induction ms generalizing a with
  | nil => exact .inr (.inl mem)
  | cons m ms ih =>
      rw [started, run_cons, List.mem_append]
      rcases starts_or_queued mem m with starts | queued | ⟨lost, panicked, gone⟩
      · exact .inl (.inl starts)
      · rcases ih queued with starts | queued | ⟨lost, seen, gone⟩
        · exact .inl (.inr starts)
        · exact .inr (.inl queued)
        · exact .inr (.inr ⟨lost, List.mem_cons_of_mem _ seen, gone⟩)
      · exact .inr (.inr ⟨lost, panicked ▸ List.mem_cons_self, gone⟩)

/-- A task that begins to tick with some steps was queued after the first few of them. -/
lemma exists_queued_of_started {a : Activity τ} {ms : List (Move τ)} {h : Handle}
    (mem : h ∈ a.started ms) : ∃ ns, h ∈ (a.run ns).2.queued := by
  induction ms generalizing a with
  | nil => cases mem
  | cons m ms ih =>
      rw [started, List.mem_append] at mem
      rcases mem with first | later
      · exact ⟨[], queued_of_starts first⟩
      · obtain ⟨ns, queued⟩ := ih later
        exact ⟨m :: ns, queued⟩

/-! ### Which handles are found -/

namespace Sound

variable {a : Activity τ} {h : Handle}

/-- A queued task has not been given up. -/
lemma holds_of_queued (sound : a.Sound) (queued : h ∈ a.queued) : a.Holds h :=
  ⟨List.mem_append_right _ (queued_subset h queued),
    fun cancelled => (sound.apart h (sound.cancelled h cancelled)).2 queued⟩

/-- A task that has not been given up and is not queued is in the table, or it ticks and has not
been noted as cancelled. -/
lemma found_iff (sound : a.Sound) (still : a.scheduler.running = a.ticking) :
    a.Holds h ∧ h ∉ a.queued ↔
      h ∈ a.scheduler.handles ∨ h ∈ a.scheduler.running ∧ h ∉ a.scheduler.cancelled := by
  have live : h ∈ a.live ↔
      h ∈ a.scheduler.handles ∨ h ∈ a.scheduler.running ∨ h ∈ a.queued := by
    rw [Activity.live, List.mem_append, a.perm_inHand.mem_iff, List.mem_append, still]
  constructor
  · rintro ⟨⟨mem, going⟩, idle⟩
    rcases live.mp mem with waits | ticks | queued
    · exact .inl waits
    · exact .inr ⟨ticks, going⟩
    · exact absurd queued idle
  · rintro (waits | ⟨ticks, going⟩)
    · have away : h ∉ a.inHand := fun mem => sound.not_mem_handles mem waits
      exact ⟨⟨live.mpr (.inl waits), fun cancelled =>
        (sound.apart h (sound.cancelled h cancelled)).1 waits⟩,
        fun queued => away (queued_subset h queued)⟩
    · exact ⟨⟨live.mpr (.inr (.inl ticks)), going⟩, (sound.apart h ticks).2⟩

/-- A task that has not been given up and is not queued is found. -/
lemma unregister_of_found (sound : a.Sound) (still : a.scheduler.running = a.ticking)
    (holds : a.Holds h) (idle : h ∉ a.queued) :
    (a.act (.unregister h)).1 = .unregistered h true := by
  have found := (sound.found_iff still).mp ⟨holds, idle⟩
  change Event.unregistered h (a.scheduler.unregister h).1.succeeded = .unregistered h true
  rw [Scheduler.unregister]
  split
  · rfl
  · next none =>
    have absent : h ∉ a.scheduler.handles := by
      rintro mem
      obtain ⟨e, he, rfl⟩ := List.mem_map.mp mem
      simpa using List.find?_eq_none.mp none e he
    obtain ⟨ticks, going⟩ := found.resolve_left absent
    have ticks' : a.scheduler.running.contains h = true := List.contains_iff_mem.mpr ticks
    have going' : a.scheduler.cancelled.contains h = false := by simpa using going
    rw [ticks', going']
    rfl

/-- Any other handle is not found, and nothing changes. -/
lemma unregister_of_not_found (sound : a.Sound) (still : a.scheduler.running = a.ticking)
    (missing : ¬(a.Holds h ∧ h ∉ a.queued)) :
    a.act (.unregister h) = (.unregistered h false, a) := by
  rw [sound.found_iff still, not_or] at missing
  obtain ⟨absent, still⟩ := missing
  have none : (a.scheduler.entries.find? fun e => e.handle == h) = none := by
    refine List.find?_eq_none.mpr fun e he => ?_
    rw [beq_iff_eq]
    rintro rfl
    exact absent (List.mem_map_of_mem he)
  have idle : (a.scheduler.running.contains h && !a.scheduler.cancelled.contains h) = false := by
    simpa using still
  rw [act, Scheduler.unregister, none]
  simp only [idle]
  rfl

end Sound

/-! ### Every moment -/

/-- **What unregistering does**, at every moment at which nobody has panicked, be it in the middle
of ticks that lie inside one another. It succeeds just for the handles that are outstanding and
whose tasks are not queued in a run; such a task never begins another tick, whoever panics later.
For any other handle it fails and changes nothing. So it fails for a queued task, which is
outstanding; and this one stays queued until it ticks, or until a panic loses it. -/
theorem unregister_exact (ms : List (Move τ)) (h : Handle)
    (intact : Intact ((start : Activity τ).run ms).1) :
    let r := (start : Activity τ).run ms
    let u := r.2.act (.unregister h)
    (Outstanding r.1 h ∧ h ∉ r.2.queued →
      u.1 = .unregistered h true ∧ ∀ ns, h ∉ u.2.started ns) ∧
    (¬(Outstanding r.1 h ∧ h ∉ r.2.queued) → u = (.unregistered h false, r.2)) ∧
    (h ∈ r.2.queued →
      Outstanding r.1 h ∧ ∀ ns, h ∈ u.2.started ns ∨ h ∈ (u.2.run ns).2.queued ∨
        ∃ lost, .panicked lost ∈ (u.2.run ns).1 ∧ h ∈ lost) := by
  intro r u
  have counted := run_counted (τ := τ) ms
  have sound := counted.sound
  have still := counted.still intact
  have holds : r.2.Holds h ↔ Outstanding r.1 h := (counted.holds_iff h).trans (remains_iff intact)
  refine ⟨fun found => ?_, fun missing => ?_, fun queued => ?_⟩
  · have succeeded : u.1 = .unregistered h true :=
      sound.unregister_of_found still (holds.mpr found.1) found.2
    refine ⟨succeeded, fun ns begun => ?_⟩
    -- a tick that begins later needs the task to remain until then
    obtain ⟨ns', queued⟩ := exists_queued_of_started begun
    have later := run_counted (τ := τ) (ms ++ .unregister h :: ns')
    rw [run_append, run_cons] at later
    have remains := (later.holds_iff h).mp (later.sound.holds_of_queued queued)
    refine remains.2.1 (List.mem_append_right _ ?_)
    change _ ∈ u.1 :: _
    rw [succeeded]
    exact List.mem_cons_self
  · exact sound.unregister_of_not_found still fun found => missing ⟨holds.mp found.1, found.2⟩
  · have same : u = (.unregistered h false, r.2) :=
      sound.unregister_of_not_found still fun found => found.2 queued
    rw [same]
    exact ⟨holds.mp (sound.holds_of_queued queued), queued_or_started queued⟩

/-- Three tasks are registered, and the first two are run. The first one ticks. -/
def firstOfTwo : List (Move String) :=
  [.register "first" 0 ⟨5⟩, .register "second" 0 ⟨7⟩, .register "third" 0 ⟨20⟩,
    .run 9 fun e => e.due ≤ 9, .next]

lemma events_firstOfTwo : ((start : Activity String).run firstOfTwo).1 =
    [.registered ⟨0⟩, .registered ⟨1⟩, .registered ⟨2⟩, .quiet, .quiet] := rfl

lemma queued_firstOfTwo : ((start : Activity String).run firstOfTwo).2.queued = [⟨1⟩] := rfl

/-- The third task waits in the table meanwhile, and can be unregistered. The second one is queued,
and cannot. -/
theorem unregister_exact_waiting :
    let r := (start : Activity String).run firstOfTwo
    let u := r.2.act (.unregister ⟨2⟩)
    Outstanding r.1 ⟨2⟩ ∧ ⟨2⟩ ∉ r.2.queued ∧ u.1 = .unregistered ⟨2⟩ true ∧
      (∀ ns, ⟨2⟩ ∉ u.2.started ns) ∧ ⟨1⟩ ∈ r.2.queued ∧ Outstanding r.1 ⟨1⟩ ∧
      r.2.act (.unregister ⟨1⟩) = (.unregistered ⟨1⟩ false, r.2) := by
  intro r u
  have outstanding : Outstanding r.1 ⟨2⟩ := by simp [r, Outstanding, events_firstOfTwo]
  have idle : (⟨2⟩ : Handle) ∉ r.2.queued := by simp [r, queued_firstOfTwo]
  have queued : (⟨1⟩ : Handle) ∈ r.2.queued := by simp [r, queued_firstOfTwo]
  have intact : Intact r.1 := by simp [r, Intact, events_firstOfTwo]
  obtain ⟨found, -, -⟩ := unregister_exact firstOfTwo ⟨2⟩ intact
  obtain ⟨-, missing, still⟩ := unregister_exact firstOfTwo ⟨1⟩ intact
  have missed := missing fun found => found.2 queued
  obtain ⟨succeeded, never⟩ := found ⟨outstanding, idle⟩
  exact ⟨outstanding, idle, succeeded, never, queued, (still queued).1, missed⟩

/-- **A task that is outstanding can be missed**: the second one is not unregistered in the tick of
the first one, and ticks after it. -/
theorem queued_not_unregistered :
    let r := (start : Activity String).run firstOfTwo
    let u := r.2.act (.unregister ⟨1⟩)
    Outstanding r.1 ⟨1⟩ ∧ u.1 = .unregistered ⟨1⟩ false ∧
      ⟨1⟩ ∈ u.2.started [.finish (.again ⟨10⟩) "first", .next] := by
  intro r u
  refine ⟨by simp [r, Outstanding, events_firstOfTwo], by rfl, ?_⟩
  have begun : u.2.started [.finish (.again ⟨10⟩) "first", .next] = [⟨1⟩] := by rfl
  rw [begun]
  exact List.mem_singleton_self _

end Activity

end HostedRepl.Scheduler
