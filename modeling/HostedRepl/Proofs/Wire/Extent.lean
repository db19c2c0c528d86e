/-
How deep and how long a message is.

* `Bytes.length_ofText_render`: the canonical text of a session id takes 36
  bytes.
* `Value.height_dict_le_iff`: how deep a dictionary is.
* `Fields.length_pair_le`: two entries of a dictionary are together no longer
  than all of them.
* `Response.Tidy`: the keys of a response ascend, and it is not nested too
  deep; `Tidy.put` and the like keep this.
* `Request.size`, `Response.size`: the number of bytes of a message;
  `Response.size_put_le`: what a field adds to it.
* `Response.Tidy.decodeAll_iff`: **a tidy response is read back** just if it
  is not too long.
-/
import Mathlib.Tactic
import HostedRepl.Proofs.Session.Id
import HostedRepl.Proofs.Wire.Canonical
import HostedRepl.Proofs.Wire.Message

namespace HostedRepl

/-- The hyphenated form consists of digits and hyphens. -/
lemma SessionId.mem_hyphenate {ds : List Char} {c : Char} (h : c ∈ hyphenate ds) :
    c = '-' ∨ c ∈ ds := by
  simp only [hyphenate, List.append_assoc, List.cons_append, List.mem_append,
    List.mem_cons] at h
  rcases h with mem | rfl | mem | rfl | mem | rfl | mem | rfl | mem
  · exact .inr (List.mem_of_mem_take mem)
  · exact .inl rfl
  · exact .inr (List.mem_of_mem_drop (List.mem_of_mem_take mem))
  · exact .inl rfl
  · exact .inr (List.mem_of_mem_drop (List.mem_of_mem_take mem))
  · exact .inl rfl
  · exact .inr (List.mem_of_mem_drop (List.mem_of_mem_take mem))
  · exact .inl rfl
  · exact .inr (List.mem_of_mem_drop mem)

namespace Wire

/-! ### Texts -/

namespace Bytes

lemma ofText_append (s t : String) : ofText (s ++ t) = ofText s ++ ofText t := by
  simp [ofText]

lemma ofText_ofList (cs : List Char) :
    ofText (String.ofList cs) = cs.flatMap String.utf8EncodeChar := by
  simp [ofText, List.utf8Encode]

/-- A text has just the bytes it was read from. -/
lemma ofText_of_text? {b : Bytes} {s : String} (h : b.text? = some s) : ofText s = b := by
  rw [text?, String.fromUTF8?] at h
  split at h
  · cases h
    simp [ofText, String.fromUTF8]
  · cases h

/-- The canonical text of a session id takes a byte for each of its characters. -/
lemma length_ofText_render (id : SessionId) : (ofText id.render).length = 36 := by
  have digit : ∀ n < 16, (Text.hexDigit n).utf8Size = 1 := by decide
  have narrow : ∀ c ∈ SessionId.hyphenate id.digits, (String.utf8EncodeChar c).length = 1 := by
    intro c mem
    rw [String.length_utf8EncodeChar]
    rcases SessionId.mem_hyphenate mem with rfl | mem
    · rfl
    · obtain ⟨i, -, rfl⟩ := List.mem_map.mp mem
      exact digit _ (Nat.mod_lt _ (by decide))
  rw [SessionId.render, ofText_ofList, List.length_flatMap, List.map_congr_left narrow,
    List.map_const', List.sum_replicate, (SessionId.hyphenate_parts id.length_digits).1]
  rfl

/-- A number that is a little greater has hardly more digits. -/
lemma length_ofNat_add_le (n : Nat) {k : Nat} (small : k ≤ 90) :
    (ofNat (k + n)).length ≤ (ofNat n).length + 2 := by
  rcases Nat.eq_zero_or_pos (k + n) with zero | pos
  · have none : n = 0 := by omega
    rw [zero, none]
    omega
  · refine (numeral_ofNat pos).length_le ?_
    rw [digitsValue_ofNat, pow_add]
    have value : digitsValue (ofNat n) < 10 ^ (ofNat n).length :=
      digitsValue_lt fun _ => isDigit_of_mem_ofNat
    rw [digitsValue_ofNat] at value
    omega

/-- A byte string is its length, a colon and the bytes. -/
lemma length_encode (b : Bytes) : b.encode.length = (ofNat b.length).length + 1 + b.length := by
  rw [Bytes.encode, List.length_append, List.length_cons]
  omega

end Bytes

open Bytes

/-! ### Values -/

namespace Value

lemma wellFormed_texts (ss : List String) : (texts ss).WellFormed := by
  refine .list fun v mem => ?_
  obtain ⟨s, -, rfl⟩ := List.mem_map.mp mem
  exact .bytes _

lemma height_texts_le (ss : List String) : (texts ss).height ≤ 1 := by
  rcases exists_height_items (ss.map text) with zero | ⟨v, mem, eq⟩
  · rw [texts, zero]
    exact Nat.zero_le 1
  · obtain ⟨s, -, rfl⟩ := List.mem_map.mp mem
    rw [texts, eq]
    exact Nat.le_refl 1

/-- A dictionary is deeper than its values. -/
lemma height_dict_le_iff {entries : Fields} {n : Nat} :
    height (.dict entries) ≤ n ↔ ∀ e ∈ entries, height e.2 < n := by
  constructor
  · intro le e mem
    have below := height_lt_of_mem_entries mem
    omega
  · intro below
    rcases exists_height_entries entries with zero | ⟨e, mem, eq⟩
    · omega
    · have := below e mem
      omega

lemma length_encode_dict (fields : Fields) :
    (encode (.dict fields)).length = fields.bytes.length + 2 := by
  rw [encode_dict, Fields.bytes, List.length_append, List.length_cons, List.length_singleton]

lemma length_encode_text (s : String) :
    (encode (.text s)).length = (ofNat (ofText s).length).length + 1 + (ofText s).length := by
  rw [text, encode_bytes, length_encode]

lemma length_encode_render (id : SessionId) : (encode (.text id.render)).length = 39 := by
  rw [length_encode_text, length_ofText_render]
  rfl

/-- A few bytes in front of a text that was read add hardly more than their own number. -/
lemma length_encode_append_le {w : Value} {s t : String} (h : w.text? = some s)
    (small : (ofText t).length ≤ 90) :
    (encode (.text (t ++ s))).length ≤ w.encode.length + (ofText t).length + 2 := by
  cases w with
  | bytes b =>
      have digits := length_ofNat_add_le b.length small
      rw [length_encode_text, ofText_append, List.length_append, ofText_of_text? h, encode_bytes,
        length_encode]
      omega
  | int n => cases h
  | list items => cases h
  | dict entries => cases h

end Value

namespace Fields

variable {fields : Fields} {k k' : Bytes} {v w : Value}

lemma mem_of_get? (h : fields.get? k = some v) : (k, v) ∈ fields := by
  induction fields with
  | nil => cases h
  | cons e rest ih =>
      obtain ⟨l, u⟩ := e
      rw [get?_cons] at h
      split at h
      · next same =>
        cases h
        exact same ▸ List.mem_cons_self
      · exact List.mem_cons_of_mem _ (ih h)

lemma length_bytes_cons (k : Bytes) (v : Value) (fields : Fields) :
    (bytes ((k, v) :: fields)).length = k.encode.length + v.encode.length + fields.bytes.length := by
  rw [bytes_cons, List.length_append, List.length_append]

/-- An entry is no longer than all of them. -/
lemma length_single_le (h : fields.get? k = some v) :
    k.encode.length + v.encode.length ≤ fields.bytes.length := by
  induction fields with
  | nil => cases h
  | cons e rest ih =>
      obtain ⟨l, u⟩ := e
      rw [get?_cons] at h
      rw [length_bytes_cons]
      split at h
      · next same =>
        cases h
        subst same
        omega
      · have := ih h
        omega

/-- Two entries are together no longer than all of them. -/
lemma length_pair_le (ne : k ≠ k') (h : fields.get? k = some v) (h' : fields.get? k' = some w) :
    k.encode.length + v.encode.length + (k'.encode.length + w.encode.length) ≤
      fields.bytes.length := by
  induction fields with
  | nil => cases h
  | cons e rest ih =>
      obtain ⟨l, u⟩ := e
      rw [get?_cons] at h h'
      rw [length_bytes_cons]
      split at h
      · next same =>
        rw [if_neg fun same' => ne (same.trans same'.symm)] at h'
        have other := length_single_le h'
        cases h
        subst same
        omega
      · split at h'
        · next same =>
          have other := length_single_le h
          cases h'
          subst same
          omega
        · have others := ih h h'
          omega

end Fields

/-! ### Messages -/

/-- The number of bytes of a request. -/
def Request.size (r : Request) : Nat := r.toValue.encode.length

/-- The number of bytes of a response. -/
def Response.size (r : Response) : Nat := r.toValue.encode.length

namespace Response

/-- The keys of the response ascend, and it is not nested too deep. -/
structure Tidy (r : Response) : Prop where
  ordered : r.toValue.WellFormed
  shallow : r.toValue.height ≤ depthLimit

variable {r : Response} {v : Value}

lemma Tidy.put (tidy : r.Tidy) (key : String) (ordered : v.WellFormed)
    (shallow : v.height < depthLimit) : (r.put key v).Tidy := by
  have new {e : Bytes × Value} (mem : e ∈ (r.put key v).fields) :
      e = (ofText key, v) ∨ e ∈ r.fields := Fields.mem_insert mem
  cases tidy.ordered with
  | dict sorted each =>
      refine ⟨.dict (sorted.insert _ v) fun e mem => ?_,
        Value.height_dict_le_iff.mpr fun e mem => ?_⟩
      · rcases new mem with rfl | mem
        · exact ordered
        · exact each e mem
      · rcases new mem with rfl | mem
        · exact shallow
        · exact Value.height_dict_le_iff.mp tidy.shallow e mem

lemma Tidy.putText (tidy : r.Tidy) (key text : String) : (r.putText key text).Tidy :=
  tidy.put key (.bytes _) (Nat.succ_pos 63)

lemma Tidy.withStatus (tidy : r.Tidy) (entries : List Status) : (r.withStatus entries).Tidy :=
  tidy.put "status" (Value.wellFormed_texts _) ((Value.height_texts_le _).trans_lt (by decide))

/-- The start of a response is tidy if the id is. -/
lemma tidy_reply {id : Option Value}
    (h : ∀ v ∈ id, v.WellFormed ∧ v.height < depthLimit) (session : String) :
    (reply id (some session)).Tidy := by
  have none : empty.Tidy := by
    refine ⟨.dict Fields.sorted_nil fun e mem => absurd mem List.not_mem_nil, ?_⟩
    exact Value.height_dict_le_iff.mpr fun e mem => absurd mem List.not_mem_nil
  cases id with
  | none => exact none.putText _ _
  | some v =>
      obtain ⟨ordered, shallow⟩ := h v rfl
      exact (none.put "id" ordered shallow).putText _ _

/-- What a field adds to the size of a response. -/
lemma size_put_le (r : Response) (key : String) (v : Value) :
    (r.put key v).size ≤ r.size + ((ofText key).encode.length + v.encode.length) := by
  have put := Fields.length_bytes_insert (ofText key) v r.fields
  rw [Fields.length_bytes_cons] at put
  rw [size, size, toValue, toValue, Value.length_encode_dict, Value.length_encode_dict,
    Response.put]
  dsimp only [Fields.put]
  omega

lemma size_putText_le (r : Response) (key text : String) :
    (r.putText key text).size ≤
      r.size + ((ofText key).encode.length + (Value.text text).encode.length) :=
  size_put_le r key _

lemma size_withStatus_le (r : Response) (entries : List Status) :
    (r.withStatus entries).size ≤
      r.size + (8 + (Value.texts (entries.map Status.text)).encode.length) :=
  size_put_le r "status" _

/-- **A tidy response is read back** from its encoding just if that is not too long. -/
theorem Tidy.decodeAll_iff (tidy : r.Tidy) :
    decodeAll r.toValue.encode = .ok r.toValue ↔ r.size ≤ frameLimit := by
  have none {v : Value} : v ∉ ([] : List Value) := List.not_mem_nil
  have read := (encode_round_trip tidy.ordered (fun _ mem => absurd mem none)
    (fun _ mem => absurd mem none) 0).1
  rw [read, Value.fits_iff]
  exact and_iff_right tidy.shallow

/-- A response with these two fields is longer than both. -/
lemma le_size {key key' : String} {v w : Value} (ne : key ≠ key')
    (h : r.fields.field? key = some v) (h' : r.fields.field? key' = some w) :
    (ofText key).encode.length + v.encode.length + (ofText key').encode.length + 2 ≤ r.size := by
  have both := Fields.length_pair_le (ofText_injective.ne ne) h h'
  rw [size, toValue, Value.length_encode_dict]
  omega

end Response

end Wire

end HostedRepl
