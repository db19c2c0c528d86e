/-
The exchange between connections and the host's tick.

Connections put requests in the queue at any time. On each tick the host forwards the retired
sessions to the evaluator and then answers everything that waits, in the order it came. An
evaluator that panics spoils the answer in hand and nothing else.

* `Stats`: what the ticks have done so far.
* `Exchange`: all that connections and ticks share.
* `Exchange.push`, `Exchange.send`: a work item is queued, and a request comes in.
* `Exchange.process`: one item is answered, or dropped if nobody waits for it.
* `Exchange.pumpOnce`, `Exchange.tick`: all of them, and that as a periodic task.
-/
import HostedRepl.Bridge.Dispatch
import HostedRepl.Bridge.WorkQueue
import HostedRepl.Scheduler

namespace HostedRepl.Bridge

open Wire (Request Response Status)

/-- Counts over all ticks. -/
structure Stats where
  /-- Items answered. -/
  processed : Nat
  /-- Items dropped because nobody waited for the answer. -/
  abandoned : Nat
  ticks : Nat
  deriving DecidableEq, Repr

/-- All that connections and ticks share. -/
structure Exchange (σ : Type) where
  registry : Registry
  queue : WorkQueue
  running : Bool
  evaluator : σ
  stats : Stats
  /-- The time from one tick to the next. -/
  interval : Duration
  /-- The ticket of the next work item. -/
  nextTicket : Nat

namespace Exchange

variable {σ : Type}

/-- A running exchange to which nothing has come. -/
def start (source : Nat → SessionId) (s : σ) (interval : Duration) : Exchange σ where
  registry := .empty source
  queue := .empty
  running := true
  evaluator := s
  stats := ⟨0, 0, 0⟩
  interval
  nextTicket := 0

/-- The work item for a request in a session: the next ticket, and a channel of its own. -/
def item (b : Exchange σ) (session : SessionId) (request : Request) : WorkItem :=
  ⟨b.nextTicket, session, request, .fresh⟩

/-- A work item is made and pushed. A closed queue hands it back. -/
def push (b : Exchange σ) (session : SessionId) (request : Request) :
    Except WorkItem WorkItem × Exchange σ :=
  let item := b.item session request
  let b := { b with nextTicket := b.nextTicket + 1 }
  match b.queue.push item with
  | .ok queue => (.ok item, { b with queue })
  | .error item => (.error item, b)

/-- A request comes in on a connection: its session is resolved and a work item pushed. -/
def send (b : Exchange σ) (o : Owned) (request : Request) :
    Except WorkItem WorkItem × Owned × Exchange σ :=
  let (session, registry, o) := b.registry.resolve o request.session
  let (pushed, b) := { b with registry }.push session request
  (pushed, o, b)

/-- Close retired sessions in the evaluator. A panic leaves the remaining ones unclosed. -/
def closeAll (ev : Evaluator σ) : List SessionId → σ → Option Panic × σ
  | [], s => (none, s)
  | id :: ids, s =>
    match ev.close id s with
    | .ok _ s => closeAll ev ids s
    | .error p s => (some p, s)

/-- The response that makes up for an answer cut short by a panic. -/
def panicReport (item : WorkItem) (p : Panic) : Response :=
  ((item.reply.putText "err" ("evaluator panicked: " ++ p.reason ++ "\n")).putText "ex"
    "Panic").withStatus [.evalError, .done]

/-- The responses of an answer, with one more if a panic has left it without its last one. -/
def completed (item : WorkItem) (frames : List Response) : Option Panic → List Response
  | none => frames
  | some p => if frames.any Response.isDone then frames else frames ++ [panicReport item p]

/-- Answer one item, or drop it if nobody waits for the answer; also whether it was answered. -/
def process (ev : Evaluator σ) (b : Exchange σ) (item : WorkItem) : Bool × WorkItem × Exchange σ :=
  if item.channel.abandoned then
    (false, { item with channel := item.channel.drop },
      { b with stats := { b.stats with abandoned := b.stats.abandoned + 1 } })
  else
    let noted := b.registry.noteOp item.session item.request.id
    let (frames, panic, registry, evaluator) :=
      answerTo ev noted b.evaluator item.session item.request
    (true, { item with channel := item.channel.answer (completed item frames panic) },
      { b with registry, evaluator, stats := { b.stats with processed := b.stats.processed + 1 } })

/-- Process items in order, and add the number of those answered to `answered`. -/
def processAll (ev : Evaluator σ) (answered : Nat) :
    Exchange σ → List WorkItem → Nat × List WorkItem × Exchange σ
  | b, [] => (answered, [], b)
  | b, item :: items =>
    let (now, item, b) := b.process ev item
    let (answered, items, b) := processAll ev (answered + now.toNat) b items
    (answered, item :: items, b)

/-- Close the retired sessions and answer everything that waits; the result is the number of items
answered. A panic in closing leaves the waiting items for the next time. -/
def pumpOnce (ev : Evaluator σ) (b : Exchange σ) :
    Except Panic Nat × List WorkItem × Exchange σ :=
  let (retired, registry) := b.registry.takeRetired
  let (panic, evaluator) := closeAll ev retired b.evaluator
  let b := { b with registry, evaluator }
  match panic with
  | some p => (.error p, [], b)
  | none =>
    let (items, queue) := b.queue.drain
    let (answered, settled, b) := processAll ev 0 { b with queue } items
    (.ok answered, settled, b)

/-- One tick of the exchange as a periodic task. It stops once the server no longer runs. -/
def tick (ev : Evaluator σ) (b : Exchange σ) : TickControl × List WorkItem × Exchange σ :=
  if b.running then
    let b := { b with stats := { b.stats with ticks := b.stats.ticks + 1 } }
    let (_, settled, b) := b.pumpOnce ev
    (.again b.interval, settled, b)
  else (.stop, [], b)

/-- Close the queue and answer what waits with an error. -/
def cancel (b : Exchange σ) (reason : String) : List WorkItem × Exchange σ :=
  let (settled, queue) := b.queue.cancel reason
  (settled, { b with queue })

end Exchange

end HostedRepl.Bridge
