/-
The channel on which a request is answered.

* `Reply`: a response, or the end of the responses to a request.
* `ReplyChannel`: the replies sent and not yet received, and the state of both ends. The sending
  end can tell whether the receiving one still wants replies.
* `send`, `finish`, `receive`: pass a response, end the answer, take the next reply.
* `abandon`, `hangUp`: the receiver gives up, and goes away altogether.
-/
import HostedRepl.Wire.Message

namespace HostedRepl.Bridge

open Wire (Response)

/-- What a connection receives for a request. -/
inductive Reply where
  | frame (r : Response)
  /-- No more responses follow. -/
  | finished
  deriving DecidableEq

/-- Why a reply was not delivered. -/
inductive DeliveryError where
  | abandoned
  deriving DecidableEq, Repr

/-- The wording of a delivery error. -/
def DeliveryError.message : DeliveryError → String
  | .abandoned => "response sink abandoned by its connection"

/-- What a receiver finds. -/
inductive Received where
  | reply (r : Reply)
  /-- Nothing has come yet. -/
  | nothing
  /-- Nothing will come any more. -/
  | disconnected
  deriving DecidableEq

/-- A channel for the replies to one request. -/
structure ReplyChannel where
  /-- The replies sent and not yet received, oldest first. -/
  pending : List Reply
  /-- The receiver no longer wants replies. -/
  abandoned : Bool
  /-- The receiving end is gone. -/
  receiverGone : Bool
  /-- The sending end is gone. -/
  senderGone : Bool
  deriving DecidableEq

namespace ReplyChannel

/-- A new channel. -/
def fresh : ReplyChannel := ⟨[], false, false, false⟩

/-- Send a response, unless the receiver no longer wants it. -/
def send (c : ReplyChannel) (r : Response) : Except DeliveryError Unit × ReplyChannel :=
  if c.abandoned then (.error .abandoned, c)
  else (.ok (), { c with pending := c.pending ++ [.frame r] })

/-- End the answer; this uses up the sending end. -/
def finish (c : ReplyChannel) : Except DeliveryError Unit × ReplyChannel :=
  if c.receiverGone then (.error .abandoned, { c with senderGone := true })
  else (.ok (), { c with pending := c.pending ++ [.finished], senderGone := true })

/-- The sending end goes away without ending the answer. -/
def drop (c : ReplyChannel) : ReplyChannel := { c with senderGone := true }

/-- The receiver wants no more replies. -/
def abandon (c : ReplyChannel) : ReplyChannel := { c with abandoned := true }

/-- The receiver goes away, with the replies it has not taken. -/
def hangUp (c : ReplyChannel) : ReplyChannel :=
  { c with pending := [], abandoned := true, receiverGone := true }

/-- Take the next reply. -/
def receive (c : ReplyChannel) : Received × ReplyChannel :=
  match c.pending with
  | r :: rest => (.reply r, { c with pending := rest })
  | [] => (if c.senderGone then .disconnected else .nothing, c)

/-- Send responses in a row and end the answer; what cannot be delivered is lost. -/
def answer (c : ReplyChannel) (rs : List Response) : ReplyChannel :=
  (rs.foldl (fun c r => (c.send r).2) c).finish.2

theorem pending_answer (c : ReplyChannel) (rs : List Response) (h : c.abandoned = false)
    (h' : c.receiverGone = false) :
    (c.answer rs).pending = c.pending ++ rs.map .frame ++ [.finished] := by
  induction rs generalizing c with
  | nil => simp [answer, finish, h']
  | cons r rs ih =>
    have := ih (c.send r).2 (by simp [send, h]) (by simp [send, h, h'])
    simp only [answer, List.foldl_cons] at this ⊢
    rw [this]
    simp [send, h]

end ReplyChannel

end HostedRepl.Bridge
