/-
Requests that wait for the host.

Connections push work items; the host's tick takes all of them at once, oldest first. A closed
queue takes no more.

* `WorkItem`: a request with its session and the channel on which it is answered.
* `WorkQueue.push`, `drain`: the two ends of the queue.
* `WorkQueue.cancel`: close the queue and answer what is left with an error.
-/
import HostedRepl.Bridge.Reply
import HostedRepl.Session.Id

namespace HostedRepl.Bridge

open Wire (Request Response Status)

/-- A request that waits for the host. -/
structure WorkItem where
  /-- Tells the item apart from every other one. -/
  ticket : Nat
  session : SessionId
  request : Request
  channel : ReplyChannel
  deriving DecidableEq

/-- The start of a response to the item. -/
def WorkItem.reply (item : WorkItem) : Response :=
  .reply item.request.id (some item.session.render)

/-- Change the channel of the item with a ticket. -/
def WorkItem.onChannel (item : WorkItem) (ticket : Nat) (f : ReplyChannel → ReplyChannel) :
    WorkItem :=
  if item.ticket = ticket then { item with channel := f item.channel } else item

/-- The response to an item that the server will not work on. -/
def WorkItem.refusal (item : WorkItem) (reason : String) : Response :=
  (item.reply.putText "err" reason).withStatus [.error, .serverShutdown, .done]

/-- The waiting items, oldest first. -/
structure WorkQueue where
  items : List WorkItem
  closed : Bool
  deriving DecidableEq

namespace WorkQueue

/-- An open queue without items. -/
def empty : WorkQueue := ⟨[], false⟩

/-- Add an item at the end; a closed queue hands it back. -/
def push (q : WorkQueue) (item : WorkItem) : Except WorkItem WorkQueue :=
  if q.closed then .error item else .ok { q with items := q.items ++ [item] }

/-- Take all items, oldest first. -/
def drain (q : WorkQueue) : List WorkItem × WorkQueue := (q.items, { q with items := [] })

/-- Close the queue and answer every item with an error. -/
def cancel (q : WorkQueue) (reason : String) : List WorkItem × WorkQueue :=
  (q.items.map fun item => { item with channel := item.channel.answer [item.refusal reason] },
    ⟨[], true⟩)

/-- Change the channel of a waiting item. -/
def onChannel (q : WorkQueue) (ticket : Nat) (f : ReplyChannel → ReplyChannel) : WorkQueue :=
  { q with items := q.items.map fun item => item.onChannel ticket f }

end WorkQueue

end HostedRepl.Bridge
