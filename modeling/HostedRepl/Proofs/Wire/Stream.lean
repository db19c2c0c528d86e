/-
The frames of a stream, one after another.

* `decode_rest`: what is left of a stream after a frame.
* `framesWithin_shift`: with enough steps their number does not matter, and the
  frames of a stream further on end further on.
* `frames_of_ok`, `frames_of_error`: the first frame of a stream and the others.
* `Leaves`: some values are read from a stream, and the rest is left;
  `leaves_of_frames`, `Leaves.frames_eq`: how this bears on all of its frames.
-/
import Mathlib.Tactic
import HostedRepl.Proofs.Wire.Soundness

namespace HostedRepl.Wire

variable {b left : Bytes} {v : Value} {vs : List Value} {e : DecodeError}

/-- A frame is taken off the front of a stream, and it takes a byte or more. -/
lemma decode_rest (read : (decode b).result = .ok v) :
    (decode b).rest = b.drop (decode b).consumed ∧ (decode b).rest.length < b.length := by
  obtain ⟨form, spelled, length, -, h, -, written⟩ := decode_sound read
  obtain ⟨c, tail, begun⟩ := written.exists_cons
  constructor
  · rw [← length]
    exact (List.drop_left' rfl).symm.trans (congrArg (List.drop form.length) spelled.symm)
  · have total := congrArg List.length spelled
    rw [List.length_append, begun, List.length_cons] at total
    omega

/-- A frame of a stream that begins `n` bytes further on. -/
def shift (n : ℕ) (f : Value × ℕ) : Value × ℕ := (f.1, n + f.2)

/-- With enough steps their number does not matter, and all frames end further on where the stream
begins further on. -/
lemma framesWithin_shift {steps steps' : ℕ} (enough : b.length < steps)
    (enough' : b.length < steps') (n position : ℕ) :
    framesWithin steps (n + position) b =
      ((framesWithin steps' position b).1.map (shift n), (framesWithin steps' position b).2) := by
  induction steps generalizing steps' b position with
  | zero => exact absurd enough (Nat.not_lt_zero _)
  | succ steps ih =>
      obtain ⟨steps', rfl⟩ := Nat.exists_eq_add_of_le' (Nat.lt_of_le_of_lt (Nat.zero_le _) enough')
      rw [framesWithin, framesWithin]
      cases read : (decode b).result with
      | error e => rfl
      | ok v =>
          have shorter := (decode_rest read).2
          have others := @ih (decode b).rest steps' (by omega) (by omega)
            (position + (decode b).consumed)
          dsimp only
          rw [Nat.add_assoc, others]
          rfl

/-- A frame that is read is the first, and the others are those of the rest. -/
lemma frames_of_ok (read : (decode b).result = .ok v) :
    frames b = ((v, (decode b).consumed) ::
      (frames (decode b).rest).1.map (shift (decode b).consumed), (frames (decode b).rest).2) := by
  have others := framesWithin_shift (decode_rest read).2 (Nat.lt_succ_self _) (decode b).consumed 0
  rw [frames, framesWithin, read]
  dsimp only
  rw [Nat.zero_add, ← Nat.add_zero (decode b).consumed, others]
  rfl

lemma frames_of_error (failed : (decode b).result = .error e) : frames b = ([], e) := by
  rw [frames, framesWithin, failed]

lemma frames_eq_cons {f : Value × ℕ} {fs : List (Value × ℕ)} (split : (frames b).1 = f :: fs) :
    (decode b).result = .ok f.1 ∧ f.2 = (decode b).consumed ∧
      fs = (frames (decode b).rest).1.map (shift (decode b).consumed) := by
  cases read : (decode b).result with
  | error e =>
      rw [frames_of_error read] at split
      cases split
  | ok v =>
      rw [frames_of_ok read] at split
      cases split
      exact ⟨rfl, rfl, rfl⟩

lemma map_fst_shift (n : ℕ) (fs : List (Value × ℕ)) :
    (fs.map (shift n)).map Prod.fst = fs.map Prod.fst := by
  rw [List.map_map]
  rfl

/-! ### Some frames -/

/-- The values are read from the stream one after another, and the rest is left. -/
inductive Leaves : Bytes → List Value → Bytes → Prop
  | nil (b : Bytes) : Leaves b [] b
  | cons {b left : Bytes} {v : Value} {vs : List Value} :
      (decode b).result = .ok v → Leaves (decode b).rest vs left → Leaves b (v :: vs) left

/-- After a frame the stream is left where this frame ends. -/
lemma leaves_of_frames {before after : List (Value × ℕ)} {n : ℕ}
    (split : (frames b).1 = before ++ (v, n) :: after) :
    Leaves b (before.map Prod.fst ++ [v]) (b.drop n) := by
  -- the frames before it are found earlier in the rest, so the induction is on how many they are
  induction count : before.length generalizing b before after n with
  | zero =>
      obtain rfl := List.length_eq_zero_iff.mp count
      obtain ⟨read, place, -⟩ := frames_eq_cons split
      rw [show n = (decode b).consumed from place, ← (decode_rest read).1]
      exact .cons read (.nil _)
  | succ m ih =>
      obtain ⟨f, others, rfl⟩ := List.exists_cons_of_length_eq_add_one count
      obtain ⟨read, -, rest⟩ := frames_eq_cons split
      obtain ⟨front, back, parts, rfl, ends⟩ := List.map_eq_append_iff.mp rest.symm
      obtain ⟨⟨w, k⟩, later, rfl, place, -⟩ := List.map_eq_cons_iff.mp ends
      cases place
      have further := ih parts (by simpa using count)
      rw [List.map_cons, map_fst_shift, ← List.drop_drop, ← (decode_rest read).1]
      exact .cons read further

/-- All frames are those that were read and those of the rest. -/
lemma Leaves.frames_eq (h : Leaves b vs left) :
    (frames b).1.map Prod.fst = vs ++ (frames left).1.map Prod.fst := by
  induction h with
  | nil b => rfl
  | cons read _ ih =>
      rw [frames_of_ok read, List.map_cons, map_fst_shift, ih]
      rfl

end HostedRepl.Wire
