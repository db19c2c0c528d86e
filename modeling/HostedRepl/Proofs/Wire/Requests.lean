/-
The requests of a stream.

A connection reads one request after another until its stream ends or holds
something that is no request. Which requests these are depends on the stream
alone, and not on the pieces in which it comes.

* `readRequest`: the next request of a stream; `readRequest_append_ok`,
  `readRequest_append_error`: bytes that follow do not change it.
* `requests`: all requests of a stream, and what ended them.
* `Reads`: some requests are read from a stream, and the rest is left;
  `Reads.append`, `Reads.requests_eq`: how this bears on all of them.
* `requests_append`: **the requests are final** once something else than the
  end of the stream has ended them.
* `Connection.next?_of_ok`, `next?_of_error`: the next request of a connection.
-/
import Mathlib.Tactic
import HostedRepl.Proofs.Wire.Incremental
import HostedRepl.Proofs.Wire.Stream
import HostedRepl.Server.Connection

namespace HostedRepl

namespace Wire

/-! ### One request -/

/-- The next request of a stream, and the bytes after it. -/
def readRequest (b : Bytes) : Except DecodeError (Request × Bytes) :=
  match (decode b).result with
  | .ok v => (Request.ofValue v).map fun r => (r, (decode b).rest)
  | .error e => .error e

variable {b rest left : Bytes} {r : Request} {rs : List Request} {e : DecodeError}

lemma readRequest_of_ok {v : Value} (read : (decode b).result = .ok v) :
    readRequest b = (Request.ofValue v).map fun r => (r, (decode b).rest) := by
  rw [readRequest, read]

lemma readRequest_of_error (failed : (decode b).result = .error e) : readRequest b = .error e := by
  rw [readRequest, failed]

/-- A request is a frame that is a dictionary. -/
lemma readRequest_eq_ok :
    readRequest b = .ok (r, rest) ↔ (decode b).result = .ok r.toValue ∧ (decode b).rest = rest := by
  constructor
  · intro h
    cases read : (decode b).result with
    | error e =>
        rw [readRequest_of_error read] at h
        cases h
    | ok v =>
        rw [readRequest_of_ok read] at h
        cases v with
        | dict fields =>
            cases h
            exact ⟨rfl, rfl⟩
        | int n => cases h
        | bytes s => cases h
        | list items => cases h
  · rintro ⟨read, rfl⟩
    rw [readRequest_of_ok read]
    rfl

/-- A request takes a byte or more. -/
lemma length_of_readRequest (read : readRequest b = .ok (r, rest)) : rest.length < b.length := by
  obtain ⟨frame, rfl⟩ := readRequest_eq_ok.mp read
  exact (decode_rest frame).2

lemma readRequest_append_ok (read : readRequest b = .ok (r, rest)) (more : Bytes) :
    readRequest (b ++ more) = .ok (r, rest ++ more) := by
  obtain ⟨frame, rfl⟩ := readRequest_eq_ok.mp read
  have longer := decode_append_ok frame more
  refine readRequest_eq_ok.mpr ⟨?_, ?_⟩ <;> rw [longer]

lemma readRequest_append_error (failed : readRequest b = .error e) (final : e.isDisconnect = false)
    (more : Bytes) : readRequest (b ++ more) = .error e := by
  cases read : (decode b).result with
  | error e' =>
      rw [readRequest_of_error read] at failed
      cases failed
      exact readRequest_of_error (decode_append_error read final more)
  | ok v =>
      have longer := decode_append_ok read more
      have read' : (decode (b ++ more)).result = .ok v := by rw [longer]
      rw [readRequest_of_ok read] at failed
      rw [readRequest_of_ok read']
      cases v with
      | dict fields => cases failed
      | int n => exact failed
      | bytes s => exact failed
      | list items => exact failed

/-! ### All requests -/

/-- The values up to the first one that is no dictionary, as requests, and what ended them. -/
def requestsOf : List (Value × Nat) → DecodeError → List Request × DecodeError
  | [], e => ([], e)
  | (v, _) :: values, e =>
    match Request.ofValue v with
    | .ok r => (r :: (requestsOf values e).1, (requestsOf values e).2)
    | .error e => ([], e)

/-- The requests of a stream up to its first error, or the first value that is no dictionary, and
what ended them. -/
def requests (b : Bytes) : List Request × DecodeError := requestsOf (frames b).1 (frames b).2

/-- The places of the values do not matter. -/
lemma requestsOf_shift (n : ℕ) (fs : List (Value × ℕ)) (e : DecodeError) :
    requestsOf (fs.map (shift n)) e = requestsOf fs e := by
  induction fs with
  | nil => rfl
  | cons f fs ih =>
      rw [List.map_cons, shift, requestsOf, requestsOf, ih]

lemma requests_of_ok (read : readRequest b = .ok (r, rest)) :
    requests b = (r :: (requests rest).1, (requests rest).2) := by
  obtain ⟨frame, left⟩ := readRequest_eq_ok.mp read
  rw [requests, frames_of_ok frame, left]
  dsimp only [requestsOf, Request.ofValue, Request.toValue]
  rw [requestsOf_shift]
  rfl

lemma requests_of_error (failed : readRequest b = .error e) : requests b = ([], e) := by
  cases read : (decode b).result with
  | error e' =>
      rw [readRequest_of_error read] at failed
      cases failed
      rw [requests, frames_of_error read]
      rfl
  | ok v =>
      rw [readRequest_of_ok read] at failed
      rw [requests, frames_of_ok read]
      dsimp only [requestsOf]
      cases v with
      | dict fields => cases failed
      | int n =>
          cases failed
          rfl
      | bytes s =>
          cases failed
          rfl
      | list items =>
          cases failed
          rfl

/-! ### Some requests -/

/-- The requests are read from the stream one after another, and the rest is left. -/
inductive Reads : Bytes → List Request → Bytes → Prop
  | nil (b : Bytes) : Reads b [] b
  | cons {b rest left : Bytes} {r : Request} {rs : List Request} :
      readRequest b = .ok (r, rest) → Reads rest rs left → Reads b (r :: rs) left

namespace Reads

/-- One more request is read. -/
lemma concat (h : Reads b rs left) (read : readRequest left = .ok (r, rest)) :
    Reads b (rs ++ [r]) rest := by
  induction h with
  | nil b => exact .cons read (.nil rest)
  | cons first _ ih => exact .cons first (ih read)

lemma append (h : Reads b rs left) (more : Bytes) : Reads (b ++ more) rs (left ++ more) := by
  induction h with
  | nil b => exact .nil _
  | cons first _ ih => exact .cons (readRequest_append_ok first more) ih

/-- All requests are those that were read and those of the rest. -/
lemma requests_eq (h : Reads b rs left) :
    requests b = (rs ++ (requests left).1, (requests left).2) := by
  induction h with
  | nil b => rfl
  | cons first _ ih =>
      rw [requests_of_ok first, ih]
      rfl

end Reads

/-- Every stream is read up to what ends its requests. -/
lemma exists_reads (b : Bytes) :
    ∃ left, Reads b (requests b).1 left ∧ readRequest left = .error (requests b).2 := by
  induction length : b.length using Nat.strong_induction_on generalizing b with
  | _ n ih =>
      cases read : readRequest b with
      | error e =>
          rw [requests_of_error read]
          exact ⟨b, .nil b, read⟩
      | ok first =>
          obtain ⟨r, rest⟩ := first
          obtain ⟨left, others, last⟩ :=
            ih rest.length (length ▸ length_of_readRequest read) rest rfl
          rw [requests_of_ok read]
          exact ⟨left, .cons read others, last⟩

/-- **The requests are final** once something else than the end of the stream has ended them. -/
theorem requests_append (ended : requests b = (rs, e)) (final : e.isDisconnect = false)
    (more : Bytes) : requests (b ++ more) = (rs, e) := by
  obtain ⟨left, reads, last⟩ := exists_reads b
  rw [ended] at reads last
  rw [(reads.append more).requests_eq,
    requests_of_error (readRequest_append_error last final more), List.append_nil]

end Wire

/-! ### Connections -/

namespace Connection

open Wire

variable {c : Connection}

lemma next?_of_ok {r : Request} {rest : Bytes} (read : readRequest c.input = .ok (r, rest)) :
    c.next? = some (.ok (r, rest)) := by
  obtain ⟨frame, rfl⟩ := readRequest_eq_ok.mp read
  rw [next?]
  simp only [frame]
  rfl

/-- A connection waits for more bytes if its stream may go on and has ended too early. -/
lemma next?_of_error {e : DecodeError} (failed : readRequest c.input = .error e) :
    c.next? = if e.isDisconnect && !c.inputEnded then none else some (.error e) := by
  rw [next?]
  cases read : (decode c.input).result with
  | error e' =>
      rw [readRequest_of_error read] at failed
      cases failed
      rfl
  | ok v =>
      rw [readRequest_of_ok read] at failed
      cases v with
      | dict fields => cases failed
      | int n =>
          cases failed
          rfl
      | bytes s =>
          cases failed
          rfl
      | list items =>
          cases failed
          rfl

end Connection

end HostedRepl
