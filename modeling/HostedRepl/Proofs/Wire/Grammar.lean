/-
The written forms of a value.

The grammar is wider than what is written: the length of a byte string may
have zeros in front, and the entries of a dictionary may stand in any order
and repeat a key, of which the last one counts.

* `Written h b v`: the bytes `b` are a form of `v`, and the deepest value
  that is read on the way, be it kept or replaced, has depth `h`.
* `Value.WellFormed.written`: the encoding of a value is a form of it, of
  just its own depth.
-/
import Mathlib.Tactic
import HostedRepl.Proofs.Wire.Depth
import HostedRepl.Proofs.Wire.Fields
import HostedRepl.Proofs.Wire.Numeral

namespace HostedRepl.Wire

open Bytes

/-! ### Forms -/

/-- A form of a value inside another form. -/
structure Part where
  /-- The depth of the deepest node. -/
  height : Nat
  bytes : Bytes
  value : Value

/-- A key with the digits of its length, and the form of a value. -/
structure Slot where
  digits : Bytes
  key : Bytes
  part : Part

namespace Slot

/-- The bytes of a key and its value. -/
def bytes (s : Slot) : Bytes := s.digits ++ 58 :: s.key ++ s.part.bytes

/-- The dictionary entry a slot stands for. -/
def entry (s : Slot) : Bytes × Value := (s.key, s.part.value)

/-- The digits tell the length of the key; zeros may lead. -/
structure Sized (s : Slot) : Prop where
  ne_nil : s.digits ≠ []
  digits : ∀ d ∈ s.digits, isDigit d = true
  value : digitsValue s.digits = s.key.length

end Slot

/-- The depth of the deepest node of a container with these parts. -/
def heightAbove (parts : List Part) : Nat := (parts.map fun p => p.height + 1).foldr max 0

/-- The bytes are a form of the value, and the deepest node read on the way has this depth. -/
inductive Written : Nat → Bytes → Value → Prop where
  | int {text : Bytes} {n : Int64} : IntegerText text n →
      Written 0 (105 :: (text ++ [101])) (.int n)
  | bytes {digits b : Bytes} : digits ≠ [] → (∀ d ∈ digits, isDigit d = true) →
      digitsValue digits = b.length → Written 0 (digits ++ 58 :: b) (.bytes b)
  | list {parts : List Part} : (∀ p ∈ parts, Written p.height p.bytes p.value) →
      Written (heightAbove parts) (108 :: (parts.flatMap Part.bytes ++ [101]))
        (.list (parts.map Part.value))
  | dict {slots : List Slot} : (∀ s ∈ slots, s.Sized) →
      (∀ s ∈ slots, Written s.part.height s.part.bytes s.part.value) →
      Written (heightAbove (slots.map Slot.part)) (100 :: (slots.flatMap Slot.bytes ++ [101]))
        (.dict (Fields.ofPairs (slots.map Slot.entry)))

/-! ### Depths -/

lemma heightAbove_lt_iff {parts : List Part} {levels : Nat} :
    heightAbove parts < levels + 1 ↔ ∀ p ∈ parts, p.height < levels := by
  induction parts with
  | nil => simp [heightAbove]
  | cons p parts ih =>
      rw [List.forall_mem_cons, ← ih]
      simp only [heightAbove, List.map_cons, List.foldr_cons]
      omega

/-! ### The encoding -/

/-- A value as a part of another one, in the form that is written. -/
def Value.part (v : Value) : Part := ⟨v.height, v.encode, v⟩

/-- An entry of a dictionary in the form that is written. -/
def slot (e : Bytes × Value) : Slot := ⟨ofNat e.1.length, e.1, e.2.part⟩

lemma sized_slot (e : Bytes × Value) : (slot e).Sized where
  ne_nil := ofNat_ne_nil _
  digits _ h := isDigit_of_mem_ofNat h
  value := digitsValue_ofNat _

namespace Value

lemma height_list (items : List Value) : height (.list items) = heightAbove (items.map part) := by
  rw [height]
  induction items with
  | nil => rfl
  | cons v vs ih => rw [heightItems, ih]; rfl

lemma height_dict (entries : Fields) :
    height (.dict entries) = heightAbove ((entries.map slot).map Slot.part) := by
  rw [height]
  induction entries with
  | nil => rfl
  | cons e es ih => rw [heightEntries, ih]; rfl

/-- **The encoding of a value is a form of it**, and reading it meets no deeper value than it
has. -/
theorem WellFormed.written {v : Value} (h : v.WellFormed) : Written v.height v.encode v := by
  induction h with
  | int n =>
      rw [encode_int, List.cons_append]
      exact .int (integerText_ofInt n)
  | bytes b =>
      rw [encode_bytes]
      exact .bytes (ofNat_ne_nil _) (fun d hd => isDigit_of_mem_ofNat hd) (digitsValue_ofNat _)
  | @list items _ ih =>
      have parts : ∀ p ∈ items.map part, Written p.height p.bytes p.value := by
        intro p hp
        obtain ⟨v, hv, rfl⟩ := List.mem_map.mp hp
        exact ih v hv
      have values : (items.map part).map Part.value = items := by simp [part, Function.comp_def]
      have written := Written.list parts
      rw [values, ← height_list, List.flatMap_map] at written
      rw [encode_list, List.cons_append]
      exact written
  | @dict entries sorted _ ih =>
      have sized : ∀ s ∈ entries.map slot, s.Sized := by
        intro s hs
        obtain ⟨e, -, rfl⟩ := List.mem_map.mp hs
        exact sized_slot e
      have parts : ∀ s ∈ entries.map slot, Written s.part.height s.part.bytes s.part.value := by
        intro s hs
        obtain ⟨e, he, rfl⟩ := List.mem_map.mp hs
        exact ih e he
      have values : (entries.map slot).map Slot.entry = entries := by
        simp [slot, part, Slot.entry, Function.comp_def]
      have written := Written.dict sized parts
      rw [values, Fields.ofPairs_of_sorted sorted, ← height_dict, List.flatMap_map] at written
      rw [encode_dict, List.cons_append]
      exact written

end Value

end HostedRepl.Wire
