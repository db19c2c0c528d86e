/-
A host at work.

Owners start and shut down servers, clients come and go, and the host runs its
ticks. Owners may do so at any time, also while a task ticks, so that a run of
the scheduler is not one step of a host but a step for its beginning and two
for each of its tasks. A panic breaks off the run that is under way.

* `Host.Started`, `started_start`: **what a start can be**, and what it leaves
  behind; `start_eq_alreadyRunning`: when it is refused for a server that runs.
* `Host.find_removePort`: the port file is gone.
* `Host.stop_of_shutDown`, `shutdown_of_some`: what shutting down does.
* `Host.Process`, `Action`, `Outcome`, `Process.act`: a host with the runs of its
  scheduler that are under way, and one step of it.
* `Process.run_runBatch`: the steps that make up a run of the scheduler in
  which owners do nothing.
* `Process.act_moves`, `run_sound`: the scheduler of a host only makes the
  moves of a scheduler, which keep its table sound.
-/
import Mathlib.Tactic
import HostedRepl.Server.Lifecycle
import HostedRepl.Proofs.Files
import HostedRepl.Proofs.Scheduler.Conservation
import HostedRepl.Proofs.Server.Steady

namespace HostedRepl.Host

open Bridge Scheduler

variable {σ : Type}

/-! ### Port files -/

lemma of_writePort_error {files files' : Files} {disk : Disk} {port : Nat} {asked : Option String}
    {e : StartError} (failed : writePort files disk port asked = (.error e, files')) :
    ∃ path fault, asked = some path ∧ e = .portFile path fault ∧
      files.write path (Wire.Bytes.ofNat port) disk = (.error fault, files') := by
  cases asked with
  | none => exact absurd (Prod.mk.inj failed).1 nofun
  | some path =>
    rw [writePort] at failed
    split at failed
    · exact absurd (Prod.mk.inj failed).1 nofun
    · next fault _ unwritten =>
      obtain ⟨same, rfl⟩ := Prod.mk.inj failed
      exact ⟨path, fault, rfl, (Except.error.inj same).symm, unwritten⟩

/-! ### Starting -/

/-- **What a start can be.** The endpoint, the port file, the thread and the ticks are taken one
after the other. A start to which one of these is refused gives back what it has taken before, but
for a port file of which a part has been written; and if the moment of the first tick is missing
the start panics and gives back nothing. -/
inductive Started (h : Host σ) (sys : System) (source : Nat → SessionId) (now : Moment)
    (owner : Nat) (config : ServerConfig) (x : σ) : Except StartFailure Unit → Host σ → Prop
  | unreserved (e : StartError) (reserved : h.reserve sys.network owner config = .error e) :
      Started h sys source now owner config x (.error (.refused e)) h
  | unwritten (endpoint : Endpoint) (path : String) (fault : FileFault) (files : Files)
      (reserved : h.reserve sys.network owner config = .ok endpoint)
      (asked : config.portFile = some path)
      (failed : h.files.write path (Wire.Bytes.ofNat endpoint.port) sys.disk =
        (.error fault, files)) :
      Started h sys source now owner config x (.error (.refused (.portFile path fault)))
        { h with files }
  | unspawned (endpoint : Endpoint) (fault : ThreadFault) (files : Files)
      (reserved : h.reserve sys.network owner config = .ok endpoint)
      (written : writePort h.files sys.disk endpoint.port config.portFile = (.ok (), files))
      (refuses : sys.threadFault = some fault) :
      Started h sys source now owner config x (.error (.refused (.spawn fault)))
        { h with files := removePort files config.portFile }
  | panicked (endpoint : Endpoint) (files : Files)
      (reserved : h.reserve sys.network owner config = .ok endpoint)
      (written : writePort h.files sys.disk endpoint.port config.portFile = (.ok (), files))
      (spawned : sys.threadFault = none) (unreached : now.after? config.tickInterval = none) :
      Started h sys source now owner config x (.error (.panicked ⟨⟩))
        { h with
          files
          scheduler := { h.scheduler with nextId := h.scheduler.nextId + 1 }
          forsaken := endpoint :: h.forsaken }
  | started (endpoint : Endpoint) (files : Files) (due : Moment) (server : Server σ)
      (reserved : h.reserve sys.network owner config = .ok endpoint)
      (reached : now.after? config.tickInterval = some due)
      (fresh : server =
        { Server.start endpoint config.host (Exchange.start source x config.tickInterval)
            config.portFile with timer := some ⟨h.scheduler.nextId⟩ }) :
      Started h sys source now owner config x (.ok ())
        { h with
          held := (owner, h.nextTask, server) :: h.held
          active := some endpoint
          scheduler := { h.scheduler with
            nextId := h.scheduler.nextId + 1
            entries := Scheduler.insert ⟨⟨h.scheduler.nextId⟩, due, h.nextTask⟩
              h.scheduler.entries }
          nextTask := h.nextTask + 1
          files }

section Start

variable (h : Host σ) (sys : System) (source : Nat → SessionId) (now : Moment) (owner : Nat)
  (config : ServerConfig) (x : σ)

theorem started_start : Started h sys source now owner config x
    (h.start sys source now owner config x).1 (h.start sys source now owner config x).2 := by
  rw [start]
  cases reserved : h.reserve sys.network owner config with
  | error e => exact .unreserved e reserved
  | ok endpoint =>
    dsimp only
    rcases written : writePort h.files sys.disk endpoint.port config.portFile with ⟨e | _, files⟩
    · obtain ⟨path, fault, asked, rfl, failed⟩ := of_writePort_error written
      exact .unwritten endpoint path fault files reserved asked failed
    · dsimp only
      rw [spawn]
      cases spawned : sys.threadFault with
      | some fault => exact .unspawned endpoint fault files reserved written spawned
      | none =>
        dsimp only
        rw [enroll, register]
        dsimp only
        cases reached : now.after? config.tickInterval with
        | none => exact .panicked endpoint files reserved written spawned reached
        | some due => exact .started endpoint files due _ reserved reached rfl

variable {h sys source now owner config x}

end Start

/-! ### Stopping -/

section Holding

variable {h : Host σ}

/-- A server is stopped once, and so is its host. -/
lemma stop_of_shutDown (h : Host σ) {server : Server σ} (down : server.shutDown = true) :
    h.stop server = ([], server, h) := by
  rw [stop, Server.stop_of_shutDown down, if_pos down]

lemma server?_of_nil (held : h.held = []) (owner : Nat) : h.server? owner = none := by
  rw [server?, held]
  rfl

lemma server?_of_singleton {owner task : Nat} {server : Server σ}
    (held : h.held = [(owner, task, server)]) (o : Nat) (s : Server σ) :
    h.server? o = some s ↔ o = owner ∧ s = server := by
  rw [server?, held, List.lookup_cons]
  by_cases same : o = owner
  · simp [same, eq_comm]
  · simp [same, beq_false_of_ne same]

lemma held_onServer {owner task : Nat} {server : Server σ}
    (held : h.held = [(owner, task, server)]) (f : Server σ → Server σ) :
    (h.onServer owner f).held = [(owner, task, f server)] := by
  simp [onServer, held]

lemma tickTask_of_singleton (ev : Evaluator σ) {owner task : Nat} {server : Server σ}
    (held : h.held = [(owner, task, server)]) :
    h.tickTask ev task = ((server.tick ev).1, h.onServer owner fun _ => (server.tick ev).2) := by
  simp [tickTask, held]

/-- Whoever holds no server shuts nothing down. -/
lemma shutdown_of_none {owner : Nat} (none : h.server? owner = none) :
    h.shutdown owner = ([], .none, h) := by
  rw [shutdown, none]

/-- **What shutting down does.** That the server is stopped once more as it goes does nothing. -/
theorem shutdown_of_some {owner : Nat} {server : Server σ} (holds : h.server? owner = some server)
    (up : server.shutDown = false) :
    h.shutdown owner = (server.stop.1, some server.stop.2,
      { h with
        held := h.held.filter fun e => e.1 != owner
        active := none
        scheduler :=
          (server.timer.map fun timer => (h.scheduler.unregister timer).2).getD h.scheduler
        files := removePort h.files server.portFile }) := by
  have first (h : Host σ) : h.stop server = (server.stop.1, server.stop.2, h.release server) := by
    rw [stop, up, if_neg Bool.false_ne_true]
  rw [shutdown, holds]
  dsimp only
  rw [first]
  dsimp only
  rw [stop_of_shutDown _ server.shutDown_stop, release]
  cases server.timer <;> rfl

/-- The scheduler is told at most that a task goes. -/
lemma scheduler_shutdown (h : Host σ) (owner : Nat) :
    (h.shutdown owner).2.2.scheduler = h.scheduler ∨
      ∃ timer, (h.shutdown owner).2.2.scheduler = (h.scheduler.unregister timer).2 := by
  cases holds : h.server? owner with
  | none =>
      rw [shutdown_of_none holds]
      exact .inl rfl
  | some server =>
      cases down : server.shutDown with
      | true =>
          rw [shutdown, holds]
          dsimp only
          rw [stop_of_shutDown _ down]
          dsimp only
          rw [stop_of_shutDown _ down]
          exact .inl rfl
      | false =>
          rw [shutdown_of_some holds down]
          cases server.timer with
          | none => exact .inl rfl
          | some timer => exact .inr ⟨timer, rfl⟩

/-- A tick leaves the table of the scheduler alone. -/
lemma scheduler_tickTask (ev : Evaluator σ) (h : Host σ) (task : Nat) :
    (h.tickTask ev task).2.scheduler = h.scheduler := by
  rw [tickTask]
  split <;> rfl

end Holding

/-! ### Steps -/

/-- What is done to a host. -/
inductive Action (σ : Type) where
  | start (sys : System) (source : Nat → SessionId) (now : Moment) (owner : Nat)
      (config : ServerConfig) (x : σ)
  /-- An owner shuts its server down, or goes away. -/
  | shutdown (owner : Nat)
  /-- A client of an owner's server does something. -/
  | client (owner : Nat) (t : Traffic)
  /-- Others change the files. -/
  | refile (files : Files)
  /-- A run of the scheduler begins with the entries that are picked. -/
  | run (now : Moment) (pick : Entry Nat → Bool)
  /-- The innermost run lets its next task tick, or ends after the last one. -/
  | next
  /-- The task that ticks in the innermost run serves its server and ends its tick. -/
  | finish
  /-- A panic of an owner comes to the innermost run, which breaks off. -/
  | unwind

namespace Action

/-- A run that is under way does it. -/
def isTick : Action σ → Bool
  | .next | .finish => true
  | _ => false

end Action

/-- What comes of a step. -/
inductive Outcome where
  | done
  | refused (e : StartError)
  | panicked

namespace Outcome

/-- What comes of a start. -/
def ofStart : Except StartFailure Unit → Outcome
  | .ok () => .done
  | .error (.refused e) => .refused e
  | .error (.panicked _) => .panicked

/-- What comes of a move of the scheduler. -/
def ofEvent : Scheduler.Event → Outcome
  | .panicked _ => .panicked
  | _ => .done

end Outcome

/-- A host with the runs of its scheduler that are under way, the innermost first. -/
structure Process (σ : Type) where
  host : Host σ
  batches : List (Batch Nat)

namespace Process

/-- A host without servers. -/
def start (files : Files) : Process σ := ⟨.empty files, []⟩

/-- The scheduler with its runs. -/
def activity (p : Process σ) : Activity Nat := ⟨p.host.scheduler, p.batches⟩

/-- The scheduler makes a move. -/
def move (p : Process σ) (m : Move Nat) : Outcome × Process σ :=
  let (e, a) := p.activity.act m
  (.ofEvent e, ⟨{ p.host with scheduler := a.scheduler }, a.batches⟩)

variable (ev : Evaluator σ)

/-- One step, and what comes of it. -/
def act (p : Process σ) : Action σ → Outcome × Process σ
  | .start sys source now owner config x =>
    let (result, host) := p.host.start sys source now owner config x
    (.ofStart result, { p with host })
  | .shutdown owner => (.done, { p with host := (p.host.shutdown owner).2.2 })
  | .client owner t => (.done, { p with host := p.host.onServer owner fun s => s.serve t })
  | .refile files => (.done, { p with host := { p.host with files } })
  | .run now pick => p.move (.run now pick)
  | .next => p.move .next
  | .finish =>
    match p.batches with
    | ⟨_, some entry, _⟩ :: _ =>
      let (control, host) := p.host.tickTask ev entry.task
      { p with host }.move (.finish control entry.task)
    | _ => (.done, p)
  | .unwind => p.move .unwind

/-- A step in which an owner starts a server is one of the things that a start can be. -/
lemma act_start (p : Process σ) (sys : System) (source : Nat → SessionId) (now : Moment)
    (owner : Nat) (config : ServerConfig) (x : σ) :
    ∃ result h, Started p.host sys source now owner config x result h ∧
      p.act ev (.start sys source now owner config x) = (.ofStart result, { p with host := h }) :=
  ⟨_, _, p.host.started_start sys source now owner config x, rfl⟩

/-- Steps in a row. -/
def run (p : Process σ) (as : List (Action σ)) : Process σ :=
  as.foldl (fun p a => (p.act ev a).2) p

/-- One more step at the end. -/
lemma run_concat (p : Process σ) (as : List (Action σ)) (a : Action σ) :
    p.run ev (as ++ [a]) = ((p.run ev as).act ev a).2 :=
  List.foldl_concat ..

/-- What every step keeps holds after every run. -/
lemma run_invariant {P : Process σ → Prop} {p : Process σ} (init : P p)
    (step : ∀ p a, P p → P (p.act ev a).2) (as : List (Action σ)) : P (p.run ev as) := by
  induction as using List.reverseRecOn with
  | nil => exact init
  | append_singleton as a ih =>
      rw [run_concat]
      exact step _ a ih

/-! ### Runs of the scheduler -/

instance : Carrier Nat (Host σ) where
  scheduler h := h.scheduler
  put h scheduler := { h with scheduler }
  modifyGet_eq _ _ := rfl

@[simp] lemma scheduler_host (h : Host σ) : Carrier.scheduler h = h.scheduler := rfl

@[simp] lemma put_host (h : Host σ) (s : Scheduler Nat) :
    Carrier.put h s = { h with scheduler := s } := rfl

lemma run_tickEntry (e : Entry Nat) (h : Host σ) :
    (tickEntry ev e).run h = (.ok ((h.tickTask ev e.task).1, e.task), (h.tickTask ev e.task).2) :=
  rfl

/-- A task that is given up does nothing to its host. -/
lemma run_breakOff_pure {α : Type} (entries : List (Entry Nat)) (o : Overflow) (h : Host σ) :
    ((breakOff (fun _ => pure ()) entries o : Hosted (Host σ) α).run h).2 = h := by
  have pure (task : Nat) : (Pure.pure () : Hosted (Host σ) Unit).Keeps fun h' => h' = h :=
    Hosted.Keeps.pure ()
  exact keeps_breakOff pure entries o h rfl

/-- The tasks of a batch tick one after another, and then the run is over, or it breaks off. -/
lemma run_ticks (now : Moment) (entries : List (Entry Nat)) (h : Host σ)
    (outer : List (Batch Nat)) :
    ∃ as : List (Action σ), (∀ a ∈ as, a.isTick = true) ∧
      (⟨h, ⟨now, none, entries⟩ :: outer⟩ : Process σ).run ev as =
        ⟨((runEntries (tickEntry ev) (fun _ => pure ()) now entries).run h).2, outer⟩ := by
  induction entries generalizing h with
  | nil => exact ⟨[.next], by simp [Action.isTick], rfl⟩
  | cons entry entries ih =>
      simp only [runEntries_cons, scheduler_host, put_host, run_tickEntry]
      set begun : Host σ := { h with scheduler := h.scheduler.begin entry.handle }
      rcases ticked : begun.tickTask ev entry.task with ⟨control, h'⟩
      have turn : (⟨h, ⟨now, none, entry :: entries⟩ :: outer⟩ : Process σ).run ev
          [.next, .finish] =
          (move ⟨h', ⟨now, some entry, entries⟩ :: outer⟩ (.finish control entry.task)).2 := by
        change (act ev ⟨begun, ⟨now, some entry, entries⟩ :: outer⟩ .finish).2 = _
        rw [act]
        dsimp only
        rw [ticked]
      dsimp only
      rcases finished : h'.scheduler.finish { entry with task := entry.task } control now
        with ⟨o | kept, s⟩
      · refine ⟨[.next, .finish], by simp [Action.isTick], ?_⟩
        rw [turn, move, activity, Activity.act_finish_error finished]
        dsimp only
        rw [run_breakOff_pure]
      · obtain ⟨as, ticks, rest⟩ := ih { h' with scheduler := s }
        refine ⟨.next :: .finish :: as, by simpa [Action.isTick] using ticks, ?_⟩
        have split : (⟨h, ⟨now, none, entry :: entries⟩ :: outer⟩ : Process σ).run ev
            (.next :: .finish :: as) =
            (run ev ⟨h, ⟨now, none, entry :: entries⟩ :: outer⟩ [.next, .finish]).run ev as := rfl
        rw [split, turn, move, activity, Activity.act_finish_ok finished, rest]
        cases kept <;> rfl

/-- **A run of the scheduler** in which owners do nothing is made up of steps, be it that it ends
after its last task or that it breaks off. `Host.runDue` and `Host.runAll` are such runs. -/
theorem run_runBatch (h : Host σ) (batches : List (Batch Nat)) (now : Moment)
    (pick : Entry Nat → Bool) :
    ∃ as : List (Action σ), (∀ a ∈ as, a.isTick = true) ∧
      (⟨h, batches⟩ : Process σ).run ev (.run now pick :: as) =
        ⟨((runBatch (tickEntry ev) (fun _ => pure ()) now pick).run h).2, batches⟩ := by
  obtain ⟨as, ticks, run⟩ := run_ticks ev now (h.scheduler.take pick).1
    { h with scheduler := (h.scheduler.take pick).2 } batches
  refine ⟨as, ticks, ?_⟩
  rw [runBatch_eq]
  exact run

/-! ### Moves of the scheduler -/

lemma activity_move (p : Process σ) (m : Move Nat) :
    (p.move m).2.activity = (p.activity.act m).2 := rfl

/-- The tick of a server leaves the scheduler alone. -/
lemma activity_tickTask (p : Process σ) (task : Nat) :
    activity { p with host := (p.host.tickTask ev task).2 } = p.activity := by
  rw [activity, scheduler_tickTask]
  rfl

/-- **The scheduler of a host only makes moves of a scheduler.** -/
theorem act_moves (p : Process σ) (a : Action σ) :
    p.activity.Reaches (p.act ev a).2.activity := by
  cases a with
  | start sys source now owner config x =>
      obtain ⟨result, h, started, act⟩ := act_start ev p sys source now owner config x
      rw [act]
      have registers := Activity.Reaches.act p.activity
        (.register p.host.nextTask now config.tickInterval)
      obtain ⟨due, reached, act⟩ | ⟨unreached, act⟩ :=
        p.activity.act_register_cases p.host.nextTask now config.tickInterval
      all_goals rw [act] at registers
      · cases started with
        | unreserved | unwritten | unspawned => exact .refl _
        | panicked _ _ _ _ _ unreached =>
            rw [unreached] at reached
            exact absurd reached nofun
        | started _ _ _ _ _ reached' =>
            obtain rfl := Option.some.inj (reached.symm.trans reached')
            exact registers
      · cases started with
        | unreserved | unwritten | unspawned => exact .refl _
        | panicked => exact registers
        | started _ _ _ _ _ reached =>
            rw [unreached] at reached
            exact absurd reached nofun
  | shutdown owner =>
      obtain same | ⟨timer, gone⟩ := p.host.scheduler_shutdown owner
      · exact ⟨[], (congrArg (Activity.mk · p.batches) same).symm⟩
      · exact ⟨[.unregister timer], (congrArg (Activity.mk · p.batches) gone).symm⟩
  | client owner t => exact .refl _
  | refile files => exact .refl _
  | run now pick => exact .act _ (.run now pick)
  | next => exact .act _ .next
  | finish =>
      rw [act]
      split
      · next entry waiting outer eq =>
        dsimp only
        rw [activity_move, activity_tickTask]
        exact .act _ (.finish _ entry.task)
      · exact .refl _
  | unwind => exact .act _ .unwind

/-- **The table stays sound.** -/
theorem run_sound (files : Files) (as : List (Action σ)) :
    ((start files).run ev as).activity.Sound := by
  refine run_invariant ev (P := fun p => p.activity.Sound) (p := start files) Activity.sound_start
    (fun p a sound => ?_) as
  obtain ⟨ms, moved⟩ := act_moves ev p a
  rw [← moved]
  exact Activity.run_invariant (P := fun _ a => a.Sound) sound
    (fun _ _ m sound => Activity.act_sound sound m) ms

end Process

end HostedRepl.Host
