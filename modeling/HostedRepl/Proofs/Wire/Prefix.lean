/-
How much of a stream is read.

* `Spared`: what a reading leaves of its input and of its allowance, be it that
  it succeeds or fails; `spared_closed`: the steps of the decoder keep this.
* `decode_spares`: one call of `decode` takes no more bytes than a frame may
  have, and reports the end of a stream only if it holds nothing.
* `decode_prefix`: so a part of a form is truncated, and not malformed.
* `decode_incremental`: **reading does not look ahead**: what is read and why
  reading fails is decided by the bytes that have been taken.
-/
import HostedRepl.Proofs.Wire.Incremental

namespace HostedRepl.Wire

open Bytes Decoder

variable {α β : Type}

/-! ### Readings -/

/-- The outcome of a reading, and the bytes that it has taken off its input. -/
inductive Spared (i : Input) : EStateM.Result DecodeError Input α → Prop
  | ok {x : α} {bs : Bytes} {j : Input} : Consumes i bs j → Spared i (.ok x j)
  /-- When there are too few bytes, all may be gone, but they are within the allowance. -/
  | failed {e : DecodeError} (bs : Bytes) {j : Input} : e ≠ .ended → i.rest = bs ++ j.rest →
      bs.length ≤ i.allowance → Spared i (.error e j)

/-- A reading after another one, which has taken its bytes. -/
lemma Spared.after {i j : Input} {bs : Bytes} {r : EStateM.Result DecodeError Input α}
    (taken : Consumes i bs j) (h : Spared j r) : Spared i r := by
  cases h with
  | ok taken' => exact .ok (taken.trans taken')
  | failed bs' other spelled length =>
      refine .failed (bs ++ bs') other ?_ ?_
      · rw [taken.rest, spelled, List.append_assoc]
      · rw [taken.allowance, List.length_append]
        omega

lemma consumes_nothing (i : Input) : Consumes i [] i := ⟨rfl, (Nat.zero_add _).symm⟩

lemma spared_throw {e : DecodeError} (other : e ≠ .ended) (i : Input) :
    Spared i ((throw e : Decoder α) i) :=
  .failed [] other rfl (Nat.zero_le _)

lemma spared_bind {m : Decoder α} {f : α → Decoder β} (first : ∀ i, Spared i (m i))
    (second : ∀ x i, Spared i (f x i)) (i : Input) : Spared i ((m >>= f) i) := by
  have outcome := first i
  simp only [Bind.bind, EStateM.bind]
  generalize m i = r at outcome ⊢
  cases outcome with
  | ok taken => exact (second _ _).after taken
  | failed bs other spelled length => exact .failed bs other spelled length

lemma spared_next (i : Input) : Spared i (next i) := by
  obtain ⟨a, rest⟩ := i
  cases a with
  | zero => exact spared_throw (by simp) _
  | succ a =>
      cases rest with
      | nil => exact spared_throw (by simp) _
      | cons b rest => exact .ok (consumes_next rfl)

/-- Bytes are missing only if there are fewer than asked for. -/
lemma length_lt_of_splitBytes {n : Nat} {acc bytes : Bytes}
    (missing : splitBytes n acc bytes = none) : bytes.length < n := by
  induction n generalizing acc bytes with
  | zero => cases missing
  | succ n ih =>
      cases bytes with
      | nil => exact Nat.succ_pos n
      | cons b bytes => exact Nat.succ_lt_succ (ih missing)

lemma spared_take (n : Nat) (i : Input) : Spared i (take n i) := by
  cases taken : take n i with
  | ok bs j => exact .ok (consumes_take taken).2
  | error e j =>
      rw [take] at taken
      split at taken
      · cases taken
        exact spared_throw (by simp) i
      · next enough =>
        split at taken
        · cases taken
        · next missing =>
          cases taken
          have short := length_lt_of_splitBytes missing
          exact .failed _ (by simp) (List.append_nil _).symm (by omega)

lemma spared_closed : Closed fun _ m => ∀ i, Spared i (m i) where
  pure _ i := .ok (consumes_nothing i)
  throw other := spared_throw other
  bind := spared_bind
  allowance h i := h i.allowance i
  next := spared_next
  take := spared_take

/-! ### Streams -/

/-- What one call of `decode` takes off a stream, and when it finds nothing there. -/
lemma decode_spares (b : Bytes) :
    (∃ taken, b = taken ++ (decode b).rest ∧ taken.length ≤ frameLimit) ∧
      ((decode b).result = .error .ended → b = []) := by
  cases b with
  | nil => exact ⟨⟨[], rfl, Nat.zero_le _⟩, fun _ => rfl⟩
  | cons c tail =>
      have pos : 0 < frameLimit := by decide
      have spared := spared_closed.value (depthLimit + 1) c ⟨frameLimit - 1, tail⟩
      rw [decode]
      generalize value (depthLimit + 1) c ⟨frameLimit - 1, tail⟩ = r at spared ⊢
      cases spared with
      | @ok v bs j taken =>
          have spelled : tail = bs ++ j.rest := taken.rest
          have length : frameLimit - 1 = bs.length + j.allowance := taken.allowance
          refine ⟨⟨c :: bs, congrArg (List.cons c) spelled, ?_⟩, fun ended => by cases ended⟩
          rw [List.length_cons]
          omega
      | @failed e bs j other spelled length =>
          have length : bs.length ≤ frameLimit - 1 := length
          refine ⟨⟨c :: bs, congrArg (List.cons c) spelled, ?_⟩, fun ended => ?_⟩
          · rw [List.length_cons]
            omega
          · cases ended
            exact absurd rfl other

/-- **A part of a form is truncated.** -/
lemma decode_prefix {p q : Bytes} {v : Value} (read : (decode (p ++ q)).result = .ok v)
    (whole : (decode (p ++ q)).rest = []) (begun : p ≠ []) (more : q ≠ []) :
    (decode p).result = .error .truncated := by
  cases outcome : (decode p).result with
  | ok w =>
      -- then the whole would leave `q` unread
      rw [decode_append_ok outcome] at whole
      exact absurd (List.append_eq_nil_iff.mp whole).2 more
  | error e =>
      cases final : e.isDisconnect with
      | false =>
          rw [decode_append_error outcome final] at read
          cases read
      | true =>
          cases e with
          | truncated => rfl
          | ended => exact absurd ((decode_spares p).2 outcome) begun
          | _ => cases final

/-- **Reading does not look ahead.** When a value is read from a stream, the bytes that were taken
give the same value before any other bytes, a part of them is truncated, and without them the
stream has ended. A stream that is refused for another reason than its end is refused for that
reason as well when it goes on. No call takes more bytes than a frame may have. -/
theorem decode_incremental (b : Bytes) :
    (∀ v, (decode b).result = .ok v →
      let n := (decode b).consumed
      n ≤ b.length ∧ (∀ s, decode (b.take n ++ s) = ⟨.ok v, n, s⟩) ∧
        (∀ k, 0 < k → k < n → (decode (b.take k)).result = .error .truncated) ∧
        (decode (b.take 0)).result = .error .ended) ∧
    (∀ e, (decode b).result = .error e → e ≠ .ended → e ≠ .truncated →
      ∀ s, (decode (b ++ s)).result = .error e) ∧
    ∃ taken, b = taken ++ (decode b).rest ∧ taken.length ≤ frameLimit := by
  refine ⟨fun v read => ?_, fun e failed notEnded notTruncated s => ?_, (decode_spares b).1⟩
  · obtain ⟨form, spelled, length, limit, h, depth, written⟩ := decode_sound read
    have taken : b.take (decode b).consumed = form := by
      rw [← length]
      exact (congrArg (List.take form.length) spelled).trans List.take_left
    have again (s : Bytes) : decode (form ++ s) = ⟨.ok v, (decode b).consumed, s⟩ := by
      rw [← length]
      exact written.decode_fits s depth limit
    have bound : (decode b).consumed ≤ b.length := by
      rw [← length, congrArg List.length spelled, List.length_append]
      exact Nat.le_add_right _ _
    refine ⟨bound, taken ▸ again, fun k pos less => ?_, rfl⟩
    -- the form is a part of it and the bytes that follow this
    have part : b.take k ++ form.drop k = form := by
      have front : form.take k = b.take k := by
        rw [← taken, List.take_take, Nat.min_eq_left less.le]
      rw [← front]
      exact List.take_append_drop k form
    have whole := again []
    rw [List.append_nil, ← part] at whole
    refine decode_prefix (congrArg Decoded.result whole) (congrArg Decoded.rest whole) ?_ ?_
    · exact List.ne_nil_of_length_pos (by rw [List.length_take]; omega)
    · exact List.ne_nil_of_length_pos (by rw [List.length_drop]; omega)
  · refine decode_append_error failed ?_ s
    cases e with
    | ended => exact absurd rfl notEnded
    | truncated => exact absurd rfl notTruncated
    | _ => rfl

/-- A list of a number and a text, with the first byte of another value after it, and a list with a
letter where its number ends. -/
theorem decode_incremental_list :
    let b : Bytes := [108, 105, 55, 101, 50, 58, 104, 105, 101, 105]
    let v : Value := .list [.int 7, .bytes [104, 105]]
    let e : DecodeError := .invalidInteger "7"
    (decode b).result = .ok v ∧ (∀ s, decode (b.take 9 ++ s) = ⟨.ok v, 9, s⟩) ∧
      (∀ k, 0 < k → k < 9 → (decode (b.take k)).result = .error .truncated) ∧
      (decode [108, 105, 55, 120]).result = .error e ∧
      ∀ s, (decode ([108, 105, 55, 120] ++ s)).result = .error e := by
  intro b v e
  have whole : decode b = ⟨.ok v, 9, [105]⟩ := by rfl
  have read : (decode b).result = .ok v := congrArg Decoded.result whole
  have taken : (decode b).consumed = 9 := congrArg Decoded.consumed whole
  have failed : (decode [108, 105, 55, 120]).result = .error e := by rfl
  obtain ⟨-, again, parts, -⟩ := (decode_incremental b).1 v read
  rw [taken] at again parts
  have final := (decode_incremental [108, 105, 55, 120]).2.1 e failed (by simp [e]) (by simp [e])
  exact ⟨read, again, parts, failed, final⟩

end HostedRepl.Wire
