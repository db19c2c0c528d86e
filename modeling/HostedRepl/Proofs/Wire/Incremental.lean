/-
Reading a stream that goes on.

A reading takes bytes off the front of its input and decides on them alone. So
bytes that follow do not change what has been read, nor why a reading failed,
unless it failed for want of them.

* `Input.followed`: an input that goes on.
* `Stable`: what becomes of the outcome of a reading; `Lasting`: a reading whose
  outcomes are stable, and `Lasting.bind` for two of them in a row.
* `lasting_closed`: the steps of the decoder are such readings, and so are all
  of its parts; `lasting_value`: **a value is read alike**.
* `decode_append_ok`, `decode_append_error`: one call of `decode` on a stream
  that goes on.
-/
import Mathlib.Tactic
import HostedRepl.Proofs.Wire.Closed
import HostedRepl.Proofs.Wire.Soundness

namespace HostedRepl.Wire

open Bytes Decoder

variable {α β : Type}

/-! ### Readings -/

/-- The input with more bytes after it. -/
def Input.followed (more : Bytes) (i : Input) : Input := { i with rest := i.rest ++ more }

/-- The outcome of a reading, and the outcome of the same with more bytes after the input. -/
inductive Stable (more : Bytes) :
    EStateM.Result DecodeError Input α → EStateM.Result DecodeError Input α → Prop
  | ok (x : α) (j : Input) : Stable more (.ok x j) (.ok x (j.followed more))
  | failed (e : DecodeError) (j j' : Input) : Stable more (.error e j) (.error e j')
  /-- The bytes that follow were missing. -/
  | cut {e : DecodeError} (short : e.isDisconnect = true) (j : Input)
      (r : EStateM.Result DecodeError Input α) : Stable more (.error e j) r

/-- The outcomes of the reading are stable. -/
def Lasting (m : Decoder α) : Prop := ∀ more i, Stable more (m i) (m (i.followed more))

namespace Lasting

lemma pure (x : α) : Lasting (pure x) := fun _ i => .ok x i

lemma throw (e : DecodeError) : Lasting (throw e : Decoder α) := fun _ i => .failed e i _

lemma bind {m : Decoder α} {f : α → Decoder β} (first : Lasting m) (second : ∀ x, Lasting (f x)) :
    Lasting (m >>= f) := by
  intro more i
  have outcome := first more i
  simp only [Bind.bind, EStateM.bind]
  generalize m i = r at outcome ⊢
  generalize m (i.followed more) = r' at outcome ⊢
  cases outcome with
  | ok x j => exact second x more j
  | failed e j j' => exact .failed e j j'
  | cut short j => exact .cut short j _

/-- A reading that looks at the allowance first. -/
lemma allowance {f : Nat → Decoder α} (h : ∀ n, Lasting (f n)) :
    Lasting (do f (← get).allowance) := fun more i => h i.allowance more i

end Lasting

/-! ### The readings of the decoder -/

lemma lasting_next : Lasting next := by
  intro more i
  obtain ⟨a, rest⟩ := i
  cases a with
  | zero => exact .failed .tooLarge _ _
  | succ a =>
      cases rest with
      | nil => exact .cut rfl _ _
      | cons b rest => exact .ok b ⟨a, rest⟩

lemma lasting_take (n : Nat) : Lasting (take n) := by
  intro more i
  obtain ⟨a, rest⟩ := i
  rw [Input.followed, take, take]
  by_cases large : a < n
  · rw [if_pos large, if_pos large]
    exact .failed .tooLarge _ _
  · rw [if_neg large, if_neg large]
    cases split : splitBytes n [] rest with
    | none => exact .cut rfl _ _
    | some taken =>
        obtain ⟨bs, rfl, rfl, back⟩ := append_of_splitBytes split
        rw [List.append_assoc, splitBytes_append, ← back]
        exact .ok taken.1.reverse ⟨a - bs.length, taken.2⟩

lemma lasting_closed : Closed fun _ => Lasting where
  pure := .pure
  throw _ := .throw _
  bind := .bind
  allowance := .allowance
  next := lasting_next
  take := lasting_take

/-- **A value is read alike** from an input that goes on. -/
theorem lasting_value (levels : Nat) (first : UInt8) : Lasting (value levels first) :=
  lasting_closed.value levels first

/-! ### Streams -/

/-- What was read from a stream is read from it as well when it goes on. -/
theorem decode_append_ok {b : Bytes} {v : Value} (read : (decode b).result = .ok v)
    (more : Bytes) : decode (b ++ more) = ⟨.ok v, (decode b).consumed, (decode b).rest ++ more⟩ := by
  cases b with
  | nil => cases read
  | cons c tail =>
      have stable := lasting_value (depthLimit + 1) c more ⟨frameLimit - 1, tail⟩
      rw [List.cons_append, decode, decode]
      rw [decode] at read
      rw [Input.followed] at stable
      generalize value (depthLimit + 1) c ⟨frameLimit - 1, tail⟩ = r at read stable ⊢
      generalize value (depthLimit + 1) c ⟨frameLimit - 1, tail ++ more⟩ = r' at stable ⊢
      cases stable with
      | ok w j =>
          cases read
          rfl
      | failed e j j' => cases read
      | cut short j => cases read

/-- A stream that was refused for what it holds is refused for that as well when it goes on. -/
theorem decode_append_error {b : Bytes} {e : DecodeError} (failed : (decode b).result = .error e)
    (final : e.isDisconnect = false) (more : Bytes) : (decode (b ++ more)).result = .error e := by
  cases b with
  | nil =>
      cases failed
      cases final
  | cons c tail =>
      have stable := lasting_value (depthLimit + 1) c more ⟨frameLimit - 1, tail⟩
      rw [List.cons_append, decode]
      rw [decode] at failed
      rw [Input.followed] at stable
      generalize value (depthLimit + 1) c ⟨frameLimit - 1, tail⟩ = r at failed stable
      generalize value (depthLimit + 1) c ⟨frameLimit - 1, tail ++ more⟩ = r' at stable ⊢
      cases stable with
      | ok w j => cases failed
      | failed e' j j' =>
          cases failed
          rfl
      | cut short j =>
          cases failed
          exact absurd (final.symm.trans short) Bool.false_ne_true

end HostedRepl.Wire
