/-
What all readings have in common.

The decoder takes single bytes and blocks of bytes, puts such readings in a row
and fails. So what holds of these and is handed on to readings in a row holds of
every reading of the decoder.

* `Closed`: a class of readings with these in it.
* `Closed.integer`, `Closed.byteString`, `Closed.items`, `Closed.entries`: the
  parts of the decoder are in every such class.
* `Closed.value`: **so is the reading of a value**, by induction on the open
  levels.
-/
import Mathlib.Tactic
import HostedRepl.Wire.Decode

namespace HostedRepl.Wire

open Bytes Decoder

/-- A class of readings, with any kind of result, that has single steps of the decoder in it and
what is made of its members. The end before a value is not an error of these. -/
structure Closed (P : (α : Type) → Decoder α → Prop) : Prop where
  pure {α : Type} (x : α) : P α (pure x)
  throw {α : Type} {e : DecodeError} : e ≠ .ended → P α (throw e)
  bind {α β : Type} {m : Decoder α} {f : α → Decoder β} :
    P α m → (∀ x, P β (f x)) → P β (m >>= f)
  /-- A reading that looks at the allowance first. -/
  allowance {α : Type} {f : Nat → Decoder α} : (∀ n, P α (f n)) → P α (do f (← get).allowance)
  next : P UInt8 next
  take (n : Nat) : P Bytes (take n)

namespace Closed

variable {P : (α : Type) → Decoder α → Prop} (closed : Closed P)
include closed

lemma map {α β : Type} {m : Decoder α} (f : α → β) (h : P α m) : P β (f <$> m) := by
  rw [map_eq_pure_bind]
  exact closed.bind h fun x => closed.pure (f x)

/-- The digits of an integer. -/
lemma integerText (room : Nat) (acc : List Char) : P _ (integerText room acc) := by
  induction room generalizing acc with
  | zero =>
      unfold Decoder.integerText
      refine closed.bind closed.next fun b => ?_
      split
      · exact closed.pure _
      · exact closed.throw (by simp)
  | succ room ih =>
      unfold Decoder.integerText
      refine closed.bind closed.next fun b => ?_
      split
      · exact closed.pure _
      · dsimp only
        split
        · exact ih _
        · exact closed.throw (by simp)

lemma integer : P _ integer := by
  refine closed.bind (closed.integerText 20 []) fun cs => ?_
  split
  · exact closed.pure _
  · exact closed.throw (by simp)

lemma length (fuel n : Nat) : P _ (length fuel n) := by
  induction fuel generalizing n with
  | zero => exact closed.throw (by simp)
  | succ fuel ih =>
      unfold Decoder.length
      refine closed.bind closed.next fun b => ?_
      split
      · exact closed.pure _
      · split
        · dsimp only
          split
          · exact closed.throw (by simp)
          · exact ih _
        · exact closed.throw (by simp)

lemma byteString (first : UInt8) : P _ (byteString first) :=
  closed.allowance (f := fun n => Decoder.length n (digitValue first) >>= Decoder.take) fun _ =>
    closed.bind (closed.length _ _) closed.take

section Loops

variable {value : UInt8 → Decoder Value} (h : ∀ b, P _ (value b))
include h

lemma items (fuel : Nat) (acc : List Value) : P _ (items value fuel acc) := by
  induction fuel generalizing acc with
  | zero => exact closed.throw (by simp)
  | succ fuel ih =>
      unfold Decoder.items
      refine closed.bind closed.next fun b => ?_
      split
      · exact closed.pure _
      · exact closed.bind (h b) fun v => ih _

lemma entries (fuel : Nat) (acc : Fields) : P _ (entries value fuel acc) := by
  induction fuel generalizing acc with
  | zero => exact closed.throw (by simp)
  | succ fuel ih =>
      unfold Decoder.entries
      refine closed.bind closed.next fun b => ?_
      split
      · exact closed.pure _
      · split
        · refine closed.bind (closed.byteString b) fun key => ?_
          refine closed.bind closed.next fun c => ?_
          exact closed.bind (h c) fun v => ih _
        · exact closed.throw (by simp)

end Loops

/-- **The reading of a value is in every closed class.** -/
theorem value (levels : Nat) (first : UInt8) : P _ (value levels first) := by
  induction levels generalizing first with
  | zero => exact closed.throw (by simp)
  | succ levels ih =>
      unfold Decoder.value
      split
      · exact closed.integer
      split
      · exact closed.map _ (closed.byteString first)
      split
      · exact closed.allowance (f := fun n => Decoder.items (Decoder.value levels) n [] >>=
          fun acc => Pure.pure (Value.list acc.reverse)) fun _ =>
            closed.bind (closed.items ih _ _) fun _ => closed.pure _
      split
      · exact closed.allowance (f := fun n => Decoder.entries (Decoder.value levels) n [] >>=
          fun acc => Pure.pure (Value.dict acc)) fun _ =>
            closed.bind (closed.entries ih _ _) fun _ => closed.pure _
      · exact closed.throw (by simp)

end Closed

end HostedRepl.Wire
