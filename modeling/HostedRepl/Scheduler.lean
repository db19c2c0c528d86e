/-
A cooperative scheduler.

The host registers periodic tasks and lets the due ones run, in the order of their registration. A
task is out of the table while it ticks, so its tick may itself register and unregister tasks and
run others. A task unregistered during its own tick is not put back. A run that needs a moment that
there is not breaks off, and so does one in which a task does not get over such a panic.

* `Handle`, `Entry`, `Scheduler`: a registration, a waiting task, and the table.
* `register`, `unregister`: add a task, and remove one that waits or ticks.
* `take`, `begin`, `finish`: the stages of a run: a batch leaves the table, one of its tasks starts
  to tick, and goes back after it.
* `breakOff`: the end of a run in a panic.
* `runBatch`, `runDue`, `runAll`: a run, in any monad that carries the scheduler and panics.
-/
import HostedRepl.Moment

namespace HostedRepl

/-- Names one registration. -/
structure Handle where
  id : Nat
  deriving DecidableEq, Repr

/-- What a task wants after a tick. -/
inductive TickControl where
  | again (after : Duration)
  | stop
  deriving DecidableEq, Repr

/-- A task that waits. -/
structure Entry (τ : Type) where
  handle : Handle
  due : Moment
  task : τ

/-- The waiting tasks in the order of their handles, and those that tick. -/
structure Scheduler (τ : Type) where
  entries : List (Entry τ)
  /-- The number of the next handle. -/
  nextId : Nat
  /-- The tasks that are ticking. -/
  running : List Handle
  /-- Those of them that have been unregistered meanwhile. -/
  cancelled : List Handle

/-- What unregistering a handle did. -/
inductive Removal (τ : Type) where
  /-- The task waited and is gone. -/
  | removed (task : τ)
  /-- The task is ticking and will not be put back. -/
  | cancelled
  /-- There is no such task. -/
  | unknown

/-- The handle named a task. -/
def Removal.succeeded {τ : Type} : Removal τ → Bool
  | .removed _ | .cancelled => true
  | .unknown => false

namespace Scheduler

variable {τ : Type}

/-- A scheduler without tasks. -/
def empty : Scheduler τ := ⟨[], 0, [], []⟩

/-- The number of tasks that wait or tick. -/
def size (s : Scheduler τ) : Nat := s.entries.length + s.running.length

/-- The earliest moment at which a task is due. -/
def nextDeadline (s : Scheduler τ) : Option Moment := (s.entries.map Entry.due).min?

/-- Put an entry at its handle's place in the order. -/
def insert (entry : Entry τ) : List (Entry τ) → List (Entry τ)
  | [] => [entry]
  | e :: es => if e.handle.id < entry.handle.id then e :: insert entry es else entry :: e :: es

/-- Add a task that is due a span of time after the moment `now`. Its handle is used up even if
there is no such moment. -/
def register (s : Scheduler τ) (task : τ) (now : Moment) (interval : Duration) :
    Except Overflow Handle × Scheduler τ :=
  let handle : Handle := ⟨s.nextId⟩
  let s := { s with nextId := s.nextId + 1 }
  match now.after? interval with
  | some due => (.ok handle, { s with entries := insert ⟨handle, due, task⟩ s.entries })
  | none => (.error ⟨⟩, s)

/-- Remove a task. A handle can be unregistered once. -/
def unregister (s : Scheduler τ) (handle : Handle) : Removal τ × Scheduler τ :=
  match s.entries.find? fun e => e.handle == handle with
  | some e => (.removed e.task, { s with entries := s.entries.filter fun e => e.handle != handle })
  | none =>
    if s.running.contains handle && !s.cancelled.contains handle then
      (.cancelled, { s with cancelled := handle :: s.cancelled })
    else (.unknown, s)

/-- Take the picked entries out of the table. -/
def take (s : Scheduler τ) (pick : Entry τ → Bool) : List (Entry τ) × Scheduler τ :=
  (s.entries.filter pick, { s with entries := s.entries.filter fun e => !pick e })

/-- A task starts to tick. -/
def begin (s : Scheduler τ) (handle : Handle) : Scheduler τ :=
  { s with running := handle :: s.running }

/-- A task has ticked at the moment `now`. It is put back if it wants to go on and has not been
unregistered; the first component says whether it was, unless there is no moment to put it back
for. -/
def finish (s : Scheduler τ) (entry : Entry τ) (control : TickControl) (now : Moment) :
    Except Overflow Bool × Scheduler τ :=
  let s := { s with running := s.running.erase entry.handle }
  if s.cancelled.contains entry.handle then
    (.ok false, { s with cancelled := s.cancelled.erase entry.handle })
  else
    match control with
    | .again after =>
      match now.after? after with
      | some due => (.ok true, { s with entries := insert { entry with due } s.entries })
      | none => (.error ⟨⟩, s)
    | .stop => (.ok false, s)

section Run

variable {m : Type → Type} [Monad m] [MonadStateOf (Scheduler τ) m] [MonadExceptOf Overflow m]

/-- A run breaks off with a panic. The tasks in its hands are handed to `discard`. -/
def breakOff {α : Type} (discard : τ → m Unit) (entries : List (Entry τ)) (o : Overflow) : m α := do
  entries.forM fun e => discard e.task
  throwThe Overflow o

/-- Let the tasks of a batch tick one after the other. A task that is not put back is handed to
`discard`. If one cannot be put back, or panics as it ticks or goes, the others do not tick any
more. -/
def runEntries (tick : Entry τ → m (TickControl × τ)) (discard : τ → m Unit) (now : Moment) :
    List (Entry τ) → m Unit
  | [] => pure ()
  | entry :: entries => do
    modifyThe (Scheduler τ) fun s => s.begin entry.handle
    let (control, task) ← tryCatchThe Overflow (tick entry) (breakOff discard (entry :: entries))
    let entry := { entry with task }
    match ← modifyGetThe (Scheduler τ) fun s => s.finish entry control now with
    | .ok true => runEntries tick discard now entries
    | .ok false =>
      tryCatchThe Overflow (discard task) (breakOff discard entries)
      runEntries tick discard now entries
    | .error o => breakOff discard (entry :: entries) o

/-- Run the picked tasks, and count them. -/
def runBatch (tick : Entry τ → m (TickControl × τ)) (discard : τ → m Unit) (now : Moment)
    (pick : Entry τ → Bool) : m Nat := do
  let batch ← modifyGetThe (Scheduler τ) fun s => s.take pick
  runEntries tick discard now batch
  return batch.length

/-- Run the tasks due at the moment `now` or before. -/
def runDue (tick : Entry τ → m (TickControl × τ)) (discard : τ → m Unit) (now : Moment) : m Nat :=
  runBatch tick discard now fun e => e.due ≤ now

/-- Run all tasks at the moment `now`. -/
def runAll (tick : Entry τ → m (TickControl × τ)) (discard : τ → m Unit) (now : Moment) : m Nat :=
  runBatch tick discard now fun _ => true

end Run

end Scheduler

end HostedRepl
