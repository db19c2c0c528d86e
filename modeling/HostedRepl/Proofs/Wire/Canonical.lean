/-
The encoding is the shortest form.

* `Bytes.length_ofNat_le`, `IntegerText.length_ofInt_le`: zeros in front only
  add bytes.
* `Fields.bytes`, `length_bytes_ofPairs`: so do entries that are replaced.
* `Written.wellFormed`, `height_le`, `length_encode_le`: a form is that of an
  ordered value, which is no deeper than the form and not longer when it is
  encoded.
* `decodeAll_canonical`: **the decoder accepts the forms of the grammar**, and
  encoding again what it has read gives a form that is accepted, too.
-/
import Mathlib.Tactic
import HostedRepl.Proofs.Wire.Soundness

namespace HostedRepl.Wire

/-! ### Numbers -/

namespace Bytes

lemma digitsValue_lt {ds : Bytes} (digits : ∀ d ∈ ds, isDigit d = true) :
    digitsValue ds < 10 ^ ds.length := by
  induction ds with
  | nil => simp [digitsValue]
  | cons d ds ih =>
      obtain ⟨digit, rest⟩ := List.forall_mem_cons.mp digits
      have value : digitValue d ≤ 9 := by
        have range := isDigit_iff.mp digit
        rw [digitValue]
        omega
      calc digitsValue (d :: ds) = 10 ^ ds.length * digitValue d + digitsValue ds :=
            digitsValue_cons d ds
        _ < 10 ^ ds.length * 9 + 10 ^ ds.length :=
            Nat.add_lt_add_of_le_of_lt (Nat.mul_le_mul_left _ value) (ih rest)
        _ = 10 ^ (d :: ds).length := by rw [List.length_cons, pow_succ]; ring

/-- A number is written with as few digits as it can be. -/
lemma length_ofNat_le {ds : Bytes} (ne : ds ≠ []) (digits : ∀ d ∈ ds, isDigit d = true) :
    (ofNat (digitsValue ds)).length ≤ ds.length := by
  have some : 0 < ds.length := List.length_pos_iff.mpr ne
  rcases Nat.eq_zero_or_pos (digitsValue ds) with zero | pos
  · have one : (ofNat 0).length = 1 := rfl
    rw [zero, one]
    exact some
  · refine (numeral_ofNat pos).length_le ?_
    rw [digitsValue_ofNat]
    exact digitsValue_lt digits

end Bytes

open Bytes

lemma IntegerText.length_ofInt_le {text : Bytes} {n : Int64} (h : IntegerText text n) :
    (ofInt n.toInt).length ≤ text.length := by
  cases h with
  | zero => exact Nat.le_refl 1
  | positive num value =>
      have same : n.toInt.natAbs = digitsValue text := by omega
      rw [ofInt, if_neg (by omega), same]
      exact length_ofNat_le num.ne_nil num.digits
  | @negative ds _ num value =>
      have same : n.toInt.natAbs = digitsValue ds := by omega
      have pos := num.pos
      rw [ofInt, if_pos (by omega), same]
      exact Nat.succ_le_succ (length_ofNat_le num.ne_nil num.digits)

/-! ### Entries -/

namespace Fields

/-- The encodings of entries in a row. -/
def bytes (fields : Fields) : Bytes := fields.flatMap fun e => e.1.encode ++ e.2.encode

lemma bytes_cons (e : Bytes × Value) (fields : Fields) :
    bytes (e :: fields) = e.1.encode ++ e.2.encode ++ bytes fields := List.flatMap_cons

/-- An entry that is put in adds its encoding, or less. -/
lemma length_bytes_insert (key : Bytes) (v : Value) (fields : Fields) :
    (bytes (insert key v fields)).length ≤ (bytes ((key, v) :: fields)).length := by
  induction fields with
  | nil => exact Nat.le_refl _
  | cons e rest ih =>
      obtain ⟨k, w⟩ := e
      simp only [bytes_cons, List.length_append] at ih ⊢
      rw [insert]
      split_ifs with here before
      · simp only [bytes_cons, List.length_append]
        omega
      · simp only [bytes_cons, List.length_append]
        omega
      · simp only [bytes_cons, List.length_append]
        omega

lemma length_bytes_foldl (pairs fields : List (Bytes × Value)) :
    (bytes (pairs.foldl (fun fields p => insert p.1 p.2 fields) fields)).length ≤
      (bytes pairs).length + (bytes fields).length := by
  induction pairs generalizing fields with
  | nil => exact Nat.le_add_left _ _
  | cons p pairs ih =>
      have put := length_bytes_insert p.1 p.2 fields
      have rest := ih (insert p.1 p.2 fields)
      simp only [List.foldl_cons, bytes_cons, List.length_append] at put rest ⊢
      omega

/-- The entries of a dictionary take no more bytes than the pairs it was built from. -/
lemma length_bytes_ofPairs (pairs : List (Bytes × Value)) :
    (bytes (ofPairs pairs)).length ≤ (bytes pairs).length := length_bytes_foldl pairs []

lemma mem_foldl {pairs fields : List (Bytes × Value)} {e : Bytes × Value}
    (h : e ∈ pairs.foldl (fun fields p => insert p.1 p.2 fields) fields) :
    e ∈ pairs ∨ e ∈ fields := by
  induction pairs generalizing fields with
  | nil => exact .inr h
  | cons p pairs ih =>
      rcases ih h with mem | mem
      · exact .inl (List.mem_cons_of_mem _ mem)
      · rcases mem_insert mem with rfl | mem
        · exact .inl (List.mem_cons_self ..)
        · exact .inr mem

/-- A dictionary has no entries but the pairs it was built from. -/
lemma mem_of_mem_ofPairs {pairs : List (Bytes × Value)} {e : Bytes × Value}
    (h : e ∈ ofPairs pairs) : e ∈ pairs := (mem_foldl h).resolve_right List.not_mem_nil

end Fields

/-! ### Forms -/

lemma height_lt_heightAbove {parts : List Part} {p : Part} (h : p ∈ parts) :
    p.height < heightAbove parts := heightAbove_lt_iff.mp (Nat.lt_succ_self _) p h

/-- The encodings of values in a row are not longer than forms of them. -/
lemma length_flatMap_le {ι : Type} (xs : List ι) {f g : ι → Bytes}
    (h : ∀ x ∈ xs, (f x).length ≤ (g x).length) :
    (xs.flatMap f).length ≤ (xs.flatMap g).length := by
  rw [List.length_flatMap, List.length_flatMap]
  exact List.sum_le_sum h

namespace Written

variable {h : Nat} {b : Bytes} {v : Value}

/-- A form is that of an ordered value. -/
lemma wellFormed (w : Written h b v) : v.WellFormed := by
  induction w with
  | int _ => exact .int _
  | bytes _ _ _ => exact .bytes _
  | @list parts _ ih =>
      refine .list fun v hv => ?_
      obtain ⟨p, hp, rfl⟩ := List.mem_map.mp hv
      exact ih p hp
  | @dict slots _ _ ih =>
      refine .dict (Fields.sorted_ofPairs _) fun e he => ?_
      obtain ⟨s, hs, rfl⟩ := List.mem_map.mp (Fields.mem_of_mem_ofPairs he)
      exact ih s hs

/-- The value is no deeper than what was read. -/
lemma height_le (w : Written h b v) : v.height ≤ h := by
  induction w with
  | int _ => exact Nat.le_refl 0
  | bytes _ _ _ => exact Nat.le_refl 0
  | @list parts _ ih =>
      rw [Value.height_list]
      refine Nat.le_of_lt_succ (heightAbove_lt_iff.mpr fun q hq => ?_)
      obtain ⟨v, hv, rfl⟩ := List.mem_map.mp hq
      obtain ⟨p, hp, rfl⟩ := List.mem_map.mp hv
      exact (ih p hp).trans_lt (height_lt_heightAbove hp)
  | @dict slots _ _ ih =>
      rw [Value.height_dict]
      refine Nat.le_of_lt_succ (heightAbove_lt_iff.mpr fun q hq => ?_)
      obtain ⟨s', hs', rfl⟩ := List.mem_map.mp hq
      obtain ⟨e, he, rfl⟩ := List.mem_map.mp hs'
      -- an entry of the dictionary is one of the slots
      obtain ⟨s, hs, rfl⟩ := List.mem_map.mp (Fields.mem_of_mem_ofPairs he)
      exact (ih s hs).trans_lt (height_lt_heightAbove (List.mem_map_of_mem hs))

/-- The bytes of a slot are at least those of its entry. -/
lemma length_entry_le {s : Slot} (sized : s.Sized)
    (shorter : s.part.value.encode.length ≤ s.part.bytes.length) :
    (s.entry.1.encode ++ s.entry.2.encode).length ≤ s.bytes.length := by
  have digits := length_ofNat_le sized.ne_nil sized.digits
  rw [sized.value] at digits
  simp only [Slot.entry, Slot.bytes, Bytes.encode, List.length_append, List.length_cons]
  omega

/-- **The encoding is no longer than any other form.** -/
theorem length_encode_le (w : Written h b v) : v.encode.length ≤ b.length := by
  induction w with
  | int form =>
      have shorter := form.length_ofInt_le
      rw [Value.encode_int]
      simp only [List.length_cons, List.length_append, List.length_nil]
      omega
  | bytes ne digits value =>
      have shorter := length_ofNat_le ne digits
      rw [value] at shorter
      rw [Value.encode_bytes, Bytes.encode]
      simp only [List.length_append, List.length_cons]
      omega
  | @list parts _ ih =>
      have shorter := length_flatMap_le parts (f := fun p => p.value.encode) ih
      rw [Value.encode_list, List.flatMap_map]
      simp only [List.length_cons, List.length_append, List.length_nil] at shorter ⊢
      omega
  | @dict slots sized _ ih =>
      have built := Fields.length_bytes_ofPairs (slots.map Slot.entry)
      have shorter := length_flatMap_le slots (f := fun s => s.entry.1.encode ++ s.entry.2.encode)
        fun s hs => length_entry_le (sized s hs) (ih s hs)
      have same : Fields.bytes (slots.map Slot.entry) =
          slots.flatMap fun s => s.entry.1.encode ++ s.entry.2.encode := by
        rw [Fields.bytes, List.flatMap_map]
      rw [same, Fields.bytes] at built
      rw [Value.encode_dict]
      simp only [List.length_cons, List.length_append, List.length_nil] at built shorter ⊢
      omega

end Written

/-- **The decoder accepts just its grammar.** Bytes are accepted as a value if they are a form of it
within the limits of a frame, where the depth counts every node that is read, be it kept or
replaced. What was read is read from its encoding, too, and the encoding is no longer than the bytes
were. -/
theorem decodeAll_canonical (b : Bytes) (v : Value) :
    (decodeAll b = .ok v ↔ b.length ≤ 16777216 ∧ ∃ h ≤ 64, Written h b v) ∧
      (decodeAll b = .ok v → decodeAll v.encode = .ok v ∧ v.encode.length ≤ b.length) := by
  refine ⟨decodeAll_iff, fun accepted => ?_⟩
  obtain ⟨length, h, depth, form⟩ := decodeAll_iff.mp accepted
  have shorter := form.length_encode_le
  have fits : v.Fits := Value.fits_iff.mpr ⟨form.height_le.trans depth, shorter.trans length⟩
  exact ⟨form.wellFormed.decodeAll_encode fits, shorter⟩

/-- A dictionary whose keys are out of order, one of them twice and one with a zero before its
length: it is read, and read again from its encoding, which is shorter. -/
theorem decodeAll_canonical_unordered :
    let b := Bytes.ofText "d1:bi1e01:ai2e1:bl3:abcee"
    let v := Value.dict [([97], .int 2), ([98], .list [.bytes [97, 98, 99]])]
    decodeAll b = .ok v ∧ decodeAll v.encode = .ok v ∧ v.encode.length ≤ b.length := by
  intro b v
  have accepted : decodeAll b = .ok v := by rfl
  exact ⟨accepted, (decodeAll_canonical b v).2 accepted⟩

end HostedRepl.Wire
