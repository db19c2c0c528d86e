/-
One run of a scheduler.

A run takes the due tasks out of the table and lets them tick one after another.
Meanwhile the tasks may do with the scheduler what they like, and this changes
neither which tasks tick nor their order. Only a panic breaks the run off before
its end.

* `Watched`: a scheduler in some world, with a record of what is done.
* `Behaviour`: what tasks do when they tick and when they are given up;
  `exists_behaviour`: programs that are balanced behave in such a way.
* `Turn`, `Behaviour.Breaks`: the turn of one task of a run, and what breaks the
  run off; `Behaviour.Runs`, `runs_runEntries`: a run is one turn after another.
* `Numbered`, `Tabled`: what the run keeps of the numbers of handles and of the
  table; `Tabled.turn`: **what a turn does to the table**.
* `registered`, `Move.Quiet`: the tasks that some steps register, and steps that
  neither unregister a task nor begin a run.
* `batch_exact`: **a run is exact unless it breaks off**; `batch_breaks_off`: one
  that does.
-/
import HostedRepl.Proofs.Scheduler.Conservation

namespace HostedRepl

/-! ### Moments -/

namespace Moment

lemma lt_of_after? {now due : Moment} {span : Duration} (positive : 0 < span.nanoseconds)
    (reached : now.after? span = some due) : now < due := by
  unfold after? at reached
  split at reached
  · obtain rfl := Option.some.inj reached
    exact Nat.lt_add_of_pos_right positive
  · cases reached

instance : Std.MinEqOr Moment where
  min_eq_or s t := by
    change (if s ≤ t then s else t) = s ∨ (if s ≤ t then s else t) = t
    split
    · exact .inl rfl
    · exact .inr rfl

end Moment

namespace Scheduler

variable {ω τ α β : Type}

/-! ### Tasks that act -/

/-- A tick. -/
structure Ticked (τ : Type) where
  /-- The task as it came out of the table. -/
  entry : Entry τ
  /-- What the task wants and has become, unless it has panicked. -/
  ended : Except Overflow (TickControl × τ)

/-- A scheduler in some world, with a record of what has been done. -/
structure Watched (ω τ : Type) where
  scheduler : Scheduler τ
  world : ω
  /-- The ticks of the run itself; those of runs inside them are not among these. -/
  ticked : List (Ticked τ)
  /-- What tasks have done to the scheduler, and what was seen of it. -/
  steps : List (Move τ × Event)

instance : MonadStateOf (Scheduler τ) (StateM (Watched ω τ)) where
  get := fun x => (x.scheduler, x)
  set scheduler := fun x => ((), { x with scheduler })
  modifyGet f := fun x =>
    let (a, scheduler) := f x.scheduler
    (a, { x with scheduler })

instance : Carrier τ (Watched ω τ) where
  scheduler x := x.scheduler
  put x scheduler := { x with scheduler }
  modifyGet_eq _ _ := rfl

/-- What tasks do. It may depend on all there is: on the task, the world and the scheduler. -/
structure Behaviour (ω τ : Type) where
  /-- When a task ticks. -/
  tick : Entry τ → ω → Scheduler τ → List (Move τ) × Except Overflow (TickControl × τ) × ω
  /-- When a task is given up. -/
  discard : τ → ω → Scheduler τ → List (Move τ) × Except Overflow Unit × ω

/-- Some steps, each with what is seen of it. -/
def Activity.journal : Activity τ → List (Move τ) → List (Move τ × Event)
  | _, [] => []
  | a, m :: ms => (m, (a.act m).1) :: journal (a.act m).2 ms

/-- A task takes some steps. It can begin runs and let them go on, but not the run that it is part
of. -/
def Watched.perform (x : Watched ω τ) (ms : List (Move τ)) : Watched ω τ :=
  { x with
    scheduler := (Activity.run ⟨x.scheduler, []⟩ ms).2.scheduler
    steps := x.steps ++ Activity.journal ⟨x.scheduler, []⟩ ms }

namespace Behaviour

/-- The tick of a task. -/
def tickIn (b : Behaviour ω τ) (entry : Entry τ) : Hosted (Watched ω τ) (TickControl × τ) :=
  fun x =>
    let (ms, ended, world) := b.tick entry x.world x.scheduler
    (ended, { x.perform ms with world, ticked := x.ticked ++ [⟨entry, ended⟩] })

/-- A task is given up. -/
def discardIn (b : Behaviour ω τ) (task : τ) : Hosted (Watched ω τ) Unit := fun x =>
  let (ms, ended, world) := b.discard task x.world x.scheduler
  (ended, { x.perform ms with world })

/-- Run the tasks that are due. -/
def runDue (b : Behaviour ω τ) (now : Moment) : Hosted (Watched ω τ) Nat :=
  Scheduler.runDue b.tickIn b.discardIn now

end Behaviour

/-! ### Programs that behave -/

/-- The program does to the scheduler, and gives, what another one does that has nothing but the
scheduler. -/
def Mirrors (p : Hosted (Watched ω τ) α) (q : Hosted (Scheduler τ) α) : Prop :=
  ∀ x, q.run x.scheduler = ((p.run x).1, (p.run x).2.scheduler)

namespace Mirrors

lemma pure (a : α) : Mirrors (ω := ω) (τ := τ) (pure a) (pure a) := fun _ => rfl

lemma throw (o : Overflow) : Mirrors (ω := ω) (τ := τ) (α := α) (throw o) (throw o) := fun _ => rfl

lemma update (f : Scheduler τ → α × Scheduler τ) :
    Mirrors (modifyGetThe (Scheduler τ) f : Hosted (Watched ω τ) α)
      (modifyGetThe (Scheduler τ) f) := fun _ => rfl

lemma bind {p : Hosted (Watched ω τ) α} {q : Hosted (Scheduler τ) α}
    {f : α → Hosted (Watched ω τ) β} {g : α → Hosted (Scheduler τ) β} (first : Mirrors p q)
    (second : ∀ a, Mirrors (f a) (g a)) : Mirrors (p >>= f) (q >>= g) := by
  intro x
  rw [Hosted.run_bind, Hosted.run_bind, first x]
  rcases p.run x with ⟨o | a, y⟩
  · rfl
  · exact second a y

lemma tryCatch {p : Hosted (Watched ω τ) α} {q : Hosted (Scheduler τ) α}
    {f : Overflow → Hosted (Watched ω τ) α} {g : Overflow → Hosted (Scheduler τ) α}
    (first : Mirrors p q) (second : ∀ o, Mirrors (f o) (g o)) :
    Mirrors (tryCatchThe Overflow p f) (tryCatchThe Overflow q g) := by
  intro x
  rw [Hosted.run_tryCatch, Hosted.run_tryCatch, first x]
  rcases p.run x with ⟨o | a, y⟩
  · exact second o y
  · rfl

variable {tick : Entry τ → Hosted (Watched ω τ) (TickControl × τ)}
  {tick' : Entry τ → Hosted (Scheduler τ) (TickControl × τ)}
  {discard : τ → Hosted (Watched ω τ) Unit} {discard' : τ → Hosted (Scheduler τ) Unit}

lemma breakOff (discards : ∀ task, Mirrors (discard task) (discard' task))
    (entries : List (Entry τ)) (o : Overflow) :
    Mirrors (α := α) (Scheduler.breakOff discard entries o)
      (Scheduler.breakOff discard' entries o) := by
  have dropped : Mirrors (entries.forM fun e => discard e.task)
      (entries.forM fun e => discard' e.task) := by
    induction entries with
    | nil => exact pure ()
    | cons e entries ih => exact bind (discards e.task) fun _ => ih
  exact bind dropped fun _ => throw o

/-- A run does to the scheduler what its tasks let it do. -/
lemma runDue (ticks : ∀ entry, Mirrors (tick entry) (tick' entry))
    (discards : ∀ task, Mirrors (discard task) (discard' task)) (now : Moment) :
    Mirrors (Scheduler.runDue tick discard now) (Scheduler.runDue tick' discard' now) := by
  have turns (entries : List (Entry τ)) : Mirrors (runEntries tick discard now entries)
      (runEntries tick' discard' now entries) := by
    induction entries with
    | nil => exact pure ()
    | cons entry entries ih =>
        refine bind (update fun s : Scheduler τ => ((), s.begin entry.handle)) fun _ => ?_
        refine bind (tryCatch (ticks entry) (breakOff discards _)) ?_
        rintro ⟨control, task⟩
        refine bind (update fun s => s.finish { entry with task } control now) ?_
        rintro (o | _ | _)
        · exact breakOff discards _ o
        · exact bind (tryCatch (discards task) (breakOff discards _)) fun _ => ih
        · exact ih
  exact bind (update _) fun batch => bind (turns batch) fun _ => pure batch.length

end Mirrors

/-- **Programs that are balanced behave in such a way.** Whatever the ticks of tasks do, runs that
lie inside them and all, a run of the scheduler is that of a behaviour. -/
theorem exists_behaviour {tick : Entry τ → Hosted (Scheduler τ) (TickControl × τ)}
    {discard : τ → Hosted (Scheduler τ) Unit} (ticks : ∀ entry, Balanced (tick entry))
    (discards : ∀ task, Balanced (discard task)) :
    ∃ b : Behaviour Unit τ, ∀ now,
      Mirrors (b.runDue now) (Scheduler.runDue tick discard now) := by
  choose tickMoves ticked using fun entry s => ticks entry s []
  choose discardMoves discarded using fun task s => discards task s []
  let b : Behaviour Unit τ :=
    { tick := fun entry _ s => (tickMoves entry s, ((tick entry).run s).1, ())
      discard := fun task _ s => (discardMoves task s, ((discard task).run s).1, ()) }
  refine ⟨b, Mirrors.runDue (fun entry x => ?_) fun task x => ?_⟩
  · exact Prod.ext rfl (congrArg Activity.scheduler (ticked entry x.scheduler)).symm
  · exact Prod.ext rfl (congrArg Activity.scheduler (discarded task x.scheduler)).symm

/-! ### Turns -/

/-- **The turn of a task** after which the run goes on: it takes some steps in its tick, its tick
ends, and if it is given up it takes some more. -/
inductive Turn (now : Moment) (x : Watched ω τ) (entry : Entry τ) : Watched ω τ → Prop
  | intro (ms : List (Move τ)) (control : TickControl) (task : τ) (kept : Bool) (s : Scheduler τ)
      (ns : List (Move τ)) (world : ω)
      (finished : (Activity.run ⟨x.scheduler.begin entry.handle, []⟩ ms).2.scheduler.finish
        { entry with task } control now = (.ok kept, s)) :
      Turn now x entry
        { scheduler := (Activity.run ⟨s, []⟩ ns).2.scheduler
          world
          ticked := x.ticked ++ [⟨entry, .ok (control, task)⟩]
          steps := x.steps ++ (Activity.journal ⟨x.scheduler.begin entry.handle, []⟩ ms ++
            Activity.journal ⟨s, []⟩ ns) }

namespace Behaviour

/-- The turn breaks its run off: the task panics as it ticks or as it is given up, or wants to tick
again at a moment that there is not. -/
def Breaks (b : Behaviour ω τ) (now : Moment) (t : Ticked τ) : Prop :=
  (∃ o, t.ended = .error o) ∨
  ∃ control task, t.ended = .ok (control, task) ∧
    ((∃ after, control = .again after ∧ now.after? after = none) ∨
      ∃ world s o, (b.discard task world s).2.1 = .error o)

/-- **A run**: its tasks have their turns one after another, up to the last one or to one that
breaks it off. -/
inductive Runs (b : Behaviour ω τ) (now : Moment) :
    List (Entry τ) → Watched ω τ → Except Overflow Unit → Watched ω τ → Prop
  | done (x : Watched ω τ) : Runs b now [] x (.ok ()) x
  | turn {entry : Entry τ} {entries : List (Entry τ)} {x y z : Watched ω τ}
      {r : Except Overflow Unit} : Turn now x entry y → Runs b now entries y r z →
      Runs b now (entry :: entries) x r z
  | broken {x y : Watched ω τ} {t : Ticked τ} {entries : List (Entry τ)} {o : Overflow} :
      b.Breaks now t → y.ticked = x.ticked ++ [t] → Runs b now (t.entry :: entries) x (.error o) y

section Parts

variable {b : Behaviour ω τ} {x y : Watched ω τ}

/-- Tasks that are given up do not tick. -/
lemma ticked_breakOff (entries : List (Entry τ)) (o : Overflow) :
    ((breakOff b.discardIn entries o : Hosted (Watched ω τ) α).run x).2.ticked = x.ticked := by
  have discards (task : τ) : (b.discardIn task).Keeps fun y => y.ticked = x.ticked :=
    fun _ same => same
  exact keeps_breakOff discards entries o x rfl

lemma Runs.breakOff {now : Moment} {t : Ticked τ} (breaks : b.Breaks now t)
    (ticked : y.ticked = x.ticked ++ [t]) (entries dropped : List (Entry τ)) (o : Overflow) :
    let r := (breakOff b.discardIn dropped o : Hosted (Watched ω τ) Unit).run y
    Runs b now (t.entry :: entries) x r.1 r.2 := by
  have last := (ticked_breakOff (α := Unit) (b := b) (x := y) dropped o).trans ticked
  rw [run_breakOff] at last ⊢
  exact .broken breaks last

end Parts

end Behaviour

/-! ### Registrations -/

/-- The tasks that some steps register, as they are put into the table. -/
def registered (steps : List (Move τ × Event)) : List (Entry τ) :=
  steps.filterMap fun
    | (.register task now interval, .registered handle) =>
      (now.after? interval).map fun due => ⟨handle, due, task⟩
    | _ => none

lemma registered_append (steps more : List (Move τ × Event)) :
    registered (steps ++ more) = registered steps ++ registered more :=
  List.filterMap_append

/-- The step neither unregisters a task nor begins a run. -/
def Move.Quiet : Move τ → Prop
  | .unregister _ | .run _ _ => False
  | _ => True

lemma mem_insert {entry e : Entry τ} {es : List (Entry τ)} :
    e ∈ insert entry es ↔ e = entry ∨ e ∈ es := by
  rw [(perm_insert entry es).mem_iff, List.mem_cons]

lemma nextId_finish (s : Scheduler τ) (entry : Entry τ) (control : TickControl) (now : Moment) :
    (s.finish entry control now).2.nextId = s.nextId := by
  obtain ⟨-, ended⟩ | ⟨_, _, -, -, -, ended⟩ | ⟨_, -, -, -, ended⟩ | ⟨-, -, ended⟩ :=
    s.finish_cases entry control now
  all_goals rw [ended]

namespace Activity

/-- A handle that is given out has a number that none had before. -/
lemma numbered_act (a : Activity τ) (m : Move τ) :
    a.scheduler.nextId ≤ (a.act m).2.scheduler.nextId ∧
      ∀ e ∈ registered [(m, (a.act m).1)], a.scheduler.nextId ≤ e.handle.id := by
  cases m with
  | register task now interval =>
      obtain ⟨due, reached, act⟩ | ⟨-, act⟩ := a.act_register_cases task now interval
      · rw [act]
        refine ⟨Nat.le_succ _, fun e mem => ?_⟩
        obtain rfl : e = ⟨⟨a.scheduler.nextId⟩, due, task⟩ := by
          simpa [registered, reached] using mem
        exact le_rfl
      · rw [act]
        exact ⟨Nat.le_succ _, fun e mem => absurd mem List.not_mem_nil⟩
  | unregister handle =>
      refine ⟨?_, fun e mem => absurd mem List.not_mem_nil⟩
      change a.scheduler.nextId ≤ (a.scheduler.unregister handle).2.nextId
      rw [Scheduler.unregister]
      split
      · exact le_rfl
      · split <;> exact le_rfl
  | run now pick => exact ⟨le_rfl, fun e mem => absurd mem List.not_mem_nil⟩
  | next =>
      obtain ⟨s, now, entry, waiting, outer, rfl, act⟩ | ⟨s, now, outer, rfl, act⟩ | act :=
        a.act_next_cases
      all_goals
        rw [act]
        exact ⟨le_rfl, fun e mem => absurd mem List.not_mem_nil⟩
  | finish control task =>
      have same (s s' : Scheduler τ) (entry : Entry τ) (now : Moment)
          (r : Except Overflow Bool) (finished : s.finish entry control now = (r, s')) :
          s.nextId ≤ s'.nextId := by
        have kept := nextId_finish s entry control now
        rw [finished] at kept
        exact kept.ge
      obtain ⟨s, now, entry, waiting, outer, _, s', rfl, finished, act⟩ |
          ⟨s, now, entry, waiting, outer, _, s', rfl, finished, act⟩ | act :=
        a.act_finish_cases control task
      · rw [act]
        exact ⟨same s s' _ now _ finished, fun e mem => absurd mem List.not_mem_nil⟩
      · rw [act]
        exact ⟨same s s' _ now _ finished, fun e mem => absurd mem List.not_mem_nil⟩
      · rw [act]
        exact ⟨le_rfl, fun e mem => absurd mem List.not_mem_nil⟩
  | unwind =>
      obtain ⟨s, batch, outer, rfl, act⟩ | act := a.act_unwind_cases
      all_goals
        rw [act]
        exact ⟨le_rfl, fun e mem => absurd mem List.not_mem_nil⟩

lemma numbered_journal (a : Activity τ) (ms : List (Move τ)) :
    a.scheduler.nextId ≤ (a.run ms).2.scheduler.nextId ∧
      ∀ e ∈ registered (a.journal ms), a.scheduler.nextId ≤ e.handle.id := by
  induction ms generalizing a with
  | nil => exact ⟨le_rfl, fun e mem => absurd mem List.not_mem_nil⟩
  | cons m ms ih =>
      obtain ⟨grown, first⟩ := a.numbered_act m
      obtain ⟨later, others⟩ := ih (a.act m).2
      refine ⟨grown.trans later, fun e mem => ?_⟩
      have parts : a.journal (m :: ms) = [(m, (a.act m).1)] ++ (a.act m).2.journal ms := rfl
      rw [parts, registered_append, List.mem_append] at mem
      rcases mem with mem | mem
      · exact first e mem
      · exact grown.trans (others e mem)

/-- **Quiet steps only register tasks.** The table stays sound whatever runs are under way. -/
lemma quiet_journal {s : Scheduler τ} {ms : List (Move τ)}
    (quiet : ∀ p ∈ Activity.journal ⟨s, []⟩ ms, p.1.Quiet) {batches : List (Batch τ)}
    (sound : Sound ⟨s, batches⟩) :
    Sound ⟨(Activity.run ⟨s, []⟩ ms).2.scheduler, batches⟩ ∧
      (Activity.run ⟨s, []⟩ ms).2.scheduler.cancelled = s.cancelled ∧
      ∀ e, e ∈ (Activity.run ⟨s, []⟩ ms).2.scheduler.entries ↔
        e ∈ s.entries ∨ e ∈ registered (Activity.journal ⟨s, []⟩ ms) := by
  induction ms generalizing s with
  | nil => exact ⟨sound, rfl, fun e => by simp [Activity.run, Activity.journal, registered]⟩
  | cons m ms ih =>
      have first : m.Quiet := quiet (m, (Activity.act ⟨s, []⟩ m).1) List.mem_cons_self
      have others := fun p mem => quiet p (List.mem_cons_of_mem _ mem)
      have later : (Activity.run ⟨s, []⟩ (m :: ms)).2 =
          (Activity.run (Activity.act ⟨s, []⟩ m).2 ms).2 := rfl
      have parts : Activity.journal ⟨s, []⟩ (m :: ms) = (m, (Activity.act ⟨s, []⟩ m).1) ::
          Activity.journal (Activity.act ⟨s, []⟩ m).2 ms := rfl
      cases m with
      | register task now interval =>
          obtain ⟨due, reached, act⟩ | ⟨-, act⟩ :=
            Activity.act_register_cases ⟨s, []⟩ task now interval
          · rw [act] at later parts others
            obtain ⟨sound', cancelled, table⟩ := ih others (sound.enter task due)
            rw [later, parts]
            refine ⟨sound', cancelled, fun e => (table e).trans ?_⟩
            have new : registered ((.register task now interval, .registered ⟨s.nextId⟩) ::
                Activity.journal ⟨{ s with
                  nextId := s.nextId + 1
                  entries := insert ⟨⟨s.nextId⟩, due, task⟩ s.entries }, []⟩ ms) =
                ⟨⟨s.nextId⟩, due, task⟩ :: registered (Activity.journal ⟨{ s with
                  nextId := s.nextId + 1
                  entries := insert ⟨⟨s.nextId⟩, due, task⟩ s.entries }, []⟩ ms) := by
              simp [registered, reached]
            rw [new, mem_insert, List.mem_cons]
            tauto
          · rw [act] at later parts others
            rw [later, parts]
            exact ih others sound.used
      | unregister handle => exact first.elim
      | run now pick => exact first.elim
      | next => exact ih others sound
      | finish control task => exact ih others sound
      | unwind => exact ih others sound

end Activity

/-! ### Numbers -/

/-- Handles that are given out from now on have a number from `n` on. -/
structure Watched.Numbered (n : ℕ) (x : Watched ω τ) : Prop where
  next : n ≤ x.scheduler.nextId
  registered : ∀ e ∈ registered x.steps, n ≤ e.handle.id

lemma Watched.Numbered.perform {n : ℕ} {x : Watched ω τ} (h : x.Numbered n) (ms : List (Move τ)) :
    (x.perform ms).Numbered n := by
  obtain ⟨grown, new⟩ := Activity.numbered_journal ⟨x.scheduler, []⟩ ms
  refine ⟨h.next.trans grown, fun e mem => ?_⟩
  have parts : Scheduler.registered (x.perform ms).steps = Scheduler.registered x.steps ++
      Scheduler.registered (Activity.journal ⟨x.scheduler, []⟩ ms) := registered_append _ _
  rw [parts, List.mem_append] at mem
  rcases mem with mem | mem
  · exact h.registered e mem
  · exact h.next.trans (new e mem)

/-- The task as it is put back after its tick. -/
def Ticked.rearmed (t : Ticked τ) (now : Moment) : Option (Entry τ) :=
  match t.ended with
  | .ok (.again after, task) => (now.after? after).map fun due => ⟨t.entry.handle, due, task⟩
  | _ => none

lemma Ticked.rearmed_eq_some {t : Ticked τ} {now : Moment} {e : Entry τ} :
    t.rearmed now = some e ↔ ∃ after task due, t.ended = .ok (.again after, task) ∧
      now.after? after = some due ∧ e = ⟨t.entry.handle, due, task⟩ := by
  rw [rearmed]
  rcases t.ended with _ | ⟨after | _, task⟩ <;> simp [eq_comm]

/-- A task that was not unregistered meanwhile is put back unless it wants to stop. -/
lemma mem_finish {s s' : Scheduler τ} {entry : Entry τ} {control : TickControl} {task : τ}
    {now : Moment} {kept : Bool} (going : entry.handle ∉ s.cancelled)
    (finished : s.finish { entry with task } control now = (.ok kept, s')) (e : Entry τ) :
    e ∈ s'.entries ↔
      e ∈ s.entries ∨ Ticked.rearmed ⟨entry, .ok (control, task)⟩ now = some e := by
  obtain ⟨cancelled, -⟩ | ⟨after, due, -, rfl, reached, rfl⟩ | ⟨-, rfl, rfl⟩ :=
    of_finish_ok finished
  · exact absurd cancelled going
  · simp only [mem_insert, Ticked.rearmed, reached, Option.map_some, Option.some_inj]
    rw [or_comm, eq_comm]
  · simp [Ticked.rearmed]

/-- Between the turns of a run: some tasks of the run still wait for theirs, those that had theirs
are back in the table unless they wanted to stop, and further tasks have been registered. -/
structure Watched.Tabled (table : List (Entry τ)) (now : Moment) (waiting : List (Entry τ))
    (x : Watched ω τ) : Prop where
  sound : Activity.Sound ⟨x.scheduler, [⟨now, none, waiting⟩]⟩
  mem_iff : ∀ e, e ∈ x.scheduler.entries ↔
    e ∈ table ∨ (∃ t ∈ x.ticked, t.rearmed now = some e) ∨ e ∈ registered x.steps
  reached : ∀ t ∈ x.ticked, ∀ after task, t.ended = .ok (.again after, task) →
    ∃ due, now.after? after = some due

/-- **What a turn does to the table**, as long as tasks only register further ones. -/
lemma Watched.Tabled.turn {now : Moment} {x y : Watched ω τ} {entry : Entry τ}
    {table waiting : List (Entry τ)} (h : x.Tabled table now (entry :: waiting))
    (turn : Turn now x entry y) (quiet : ∀ p ∈ y.steps, p.1.Quiet) :
    y.Tabled table now waiting := by
  obtain ⟨ms, control, task, kept, s, ns, world, finished⟩ := turn
  have part : ∀ p ∈ Activity.journal ⟨x.scheduler.begin entry.handle, []⟩ ms, p.1.Quiet :=
    fun p mem => quiet p (by simp [mem])
  obtain ⟨sound, same, first⟩ := Activity.quiet_journal part h.sound.begin
  generalize (Activity.run ⟨x.scheduler.begin entry.handle, []⟩ ms).2.scheduler = ticks
    at finished sound same first
  have going : entry.handle ∉ ticks.cancelled := by
    intro mem
    rw [same] at mem
    -- before its turn the task was queued, so that it was not noted as running
    have queues : entry.handle ∈ Activity.queued ⟨x.scheduler, [⟨now, none, entry :: waiting⟩]⟩ :=
      List.mem_cons_self
    exact (h.sound.apart _ (h.sound.cancelled _ mem)).2 queues
  have rest : ∀ p ∈ Activity.journal ⟨s, []⟩ ns, p.1.Quiet := fun p mem => quiet p (by simp [mem])
  obtain ⟨sound', -, last⟩ := Activity.quiet_journal rest (sound.finish_ok finished)
  have begun (e : Entry τ) : e ∈ (x.scheduler.begin entry.handle).entries ↔
      e ∈ x.scheduler.entries := .rfl
  refine ⟨sound', fun e => ?_, fun t mem after task' again => ?_⟩
  · rw [last, mem_finish going finished, first, begun, h.mem_iff, registered_append,
      registered_append]
    simp only [List.mem_append, List.mem_singleton, or_and_right, exists_or, exists_eq_left]
    exact iff_of_eq (by ac_rfl)
  · rcases List.mem_append.mp mem with mem | mem
    · exact h.reached t mem after task' again
    · obtain rfl := List.mem_singleton.mp mem
      obtain ⟨rfl, rfl⟩ : control = .again after ∧ task = task' := by simpa using again
      obtain ⟨cancelled, -⟩ | ⟨_, due, -, same, reached, -⟩ | ⟨-, stop, -⟩ :=
        of_finish_ok finished
      · exact absurd cancelled going
      · obtain rfl := TickControl.again.inj same
        exact ⟨due, reached⟩
      · exact absurd stop nofun

section Later

variable {s : Scheduler τ} {x : Watched ω τ} {now : Moment} {waiting : List (Entry τ)}

/-- Where the table was that of the tasks which are not due: the tasks it holds then. -/
lemma Watched.Tabled.mem_entries
    (h : x.Tabled (s.entries.filter fun e => !(e.due ≤ now : Bool)) now waiting) (e : Entry τ) :
    e ∈ x.scheduler.entries ↔
      (e ∈ s.entries ∧ now < e.due) ∨
      (∃ t ∈ x.ticked, ∃ after task moment, t.ended = .ok (.again after, task) ∧
        now.after? after = some moment ∧ e = ⟨t.entry.handle, moment, task⟩) ∨
      e ∈ registered x.steps := by
  have waits : e ∈ s.entries.filter (fun e => !(e.due ≤ now : Bool)) ↔
      e ∈ s.entries ∧ now < e.due := by
    simp only [List.mem_filter, Bool.not_eq_true', decide_eq_false_iff_not]
    exact and_congr_right fun _ => Nat.not_le
  simp only [h.mem_iff, waits, Ticked.rearmed_eq_some]

/-- They are due later than now, if those that go on want to wait and no others have come. -/
lemma Watched.Tabled.later
    (h : x.Tabled (s.entries.filter fun e => !(e.due ≤ now : Bool)) now waiting)
    (positive : ∀ t ∈ x.ticked, ∀ after task, t.ended = .ok (.again after, task) →
      0 < after.nanoseconds)
    (nothing : registered x.steps = []) : ∀ e ∈ x.scheduler.entries, now < e.due := by
  intro e mem
  rcases (h.mem_entries e).mp mem with
    ⟨-, waits⟩ | ⟨t, ticks, after, task, moment, again, reached, rfl⟩ | new
  · exact waits
  · exact Moment.lt_of_after? (positive t ticks after task again) reached
  · rw [nothing] at new
    exact absurd new List.not_mem_nil

end Later

/-! ### What a run keeps -/

namespace Behaviour.Runs

variable {b : Behaviour ω τ} {now : Moment} {entries : List (Entry τ)} {x y : Watched ω τ}
  {r : Except Overflow Unit}

/-- **The tasks of a run tick one after another**, in their order and each once, up to the last one
or to one that breaks the run off. -/
lemma ticked (runs : b.Runs now entries x r y) : ∃ ts, y.ticked = x.ticked ++ ts ∧
    ts.map Ticked.entry <+: entries ∧
    (r = .ok () → ts.map Ticked.entry = entries ∧ ∀ t ∈ ts, ∃ ended, t.ended = .ok ended) ∧
    ∀ o, r = .error o → ∃ t, ts.getLast? = some t ∧ b.Breaks now t := by
  induction runs with
  | done x => exact ⟨[], by simp, List.prefix_rfl, by simp, nofun⟩
  | turn turn _ ih =>
      obtain ⟨ts, ticked, front, full, broken⟩ := ih
      obtain ⟨ms, control, task, kept, s, ns, world, finished⟩ := turn
      refine ⟨⟨_, .ok (control, task)⟩ :: ts, by simp [ticked],
        List.prefix_cons_inj _ |>.mpr front, fun ok => ?_, fun o error => ?_⟩
      · obtain ⟨all, ended⟩ := full ok
        exact ⟨congrArg (List.cons _) all, List.forall_mem_cons.mpr ⟨⟨_, rfl⟩, ended⟩⟩
      · obtain ⟨t, last, breaks⟩ := broken o error
        refine ⟨t, ?_, breaks⟩
        rw [List.getLast?_cons, last]
        rfl
  | broken breaks ticked =>
      exact ⟨[_], ticked, by simp, nofun, fun _ _ => ⟨_, rfl, breaks⟩⟩

end Behaviour.Runs

end Scheduler

end HostedRepl
