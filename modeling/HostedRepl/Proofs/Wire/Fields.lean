/-
Dictionaries as lists of entries.

* `Fields.get?_insert`: what is found after an entry has been put in, in any
  list of entries.
* `Fields.Sorted.insert`: putting an entry in keeps the keys ascending, so
  that every dictionary built from pairs is in order (`sorted_ofPairs`).
* `Fields.ofPairs_of_sorted`: putting entries in one by one that ascend
  already changes nothing.
* `Fields.field?_put`, `Bytes.ofText_injective`: the same for the keys of
  messages, which are texts.
-/
import Mathlib.Tactic
import HostedRepl.Wire.Value

namespace HostedRepl.Wire

lemma Bytes.lt_irrefl (a : Bytes) : ¬a < a := List.lt_irrefl a

lemma Bytes.lt_trans {a b c : Bytes} (hab : a < b) (hbc : b < c) : a < c := List.lt_trans hab hbc

lemma Bytes.lt_of_not_lt {a b : Bytes} (ne : a ≠ b) (h : ¬a < b) : b < a :=
  (List.le_iff_lt_or_eq.mp (List.not_lt.mp h)).resolve_right (Ne.symm ne)

/-- Two texts with the same bytes are the same. -/
lemma Bytes.ofText_injective : Function.Injective Bytes.ofText := fun s t h => by
  simpa [Bytes.text?_ofText] using congrArg Bytes.text? h

namespace Fields

variable {fields : Fields}

/-! ### Looking up -/

lemma get?_cons (k : Bytes) (w : Value) (fields : Fields) (key : Bytes) :
    get? ((k, w) :: fields) key = if key = k then some w else get? fields key := by
  by_cases h : key = k
  · simp [get?, h]
  · simp [get?, List.lookup_cons, h, beq_eq_false_iff_ne.2 h]

/-- An entry that has been put in is found under its key, the others as before. -/
lemma get?_insert (fields : Fields) (key key' : Bytes) (v : Value) :
    get? (insert key v fields) key' = if key' = key then some v else get? fields key' := by
  induction fields with
  | nil => rw [insert, get?_cons]
  | cons e rest ih =>
      obtain ⟨k, w⟩ := e
      rw [insert]
      by_cases here : key = k
      · subst here
        rw [if_pos rfl, get?_cons, get?_cons]
        split_ifs <;> rfl
      · rw [if_neg here]
        by_cases before : key < k
        · rw [if_pos before, get?_cons]
        · rw [if_neg before, get?_cons, get?_cons, ih]
          by_cases hk : key' = k
          · rw [if_pos hk, if_pos hk, if_neg fun eq => here (eq.symm.trans hk)]
          · rw [if_neg hk, if_neg hk]

lemma field?_put (fields : Fields) (key key' : String) (v : Value) :
    (fields.put key v).field? key' = if key' = key then some v else fields.field? key' := by
  rw [put, field?, get?_insert]
  simp only [Bytes.ofText_injective.eq_iff]
  rfl

/-! ### Order -/

lemma sorted_nil : Sorted [] := List.Pairwise.nil

lemma sorted_cons {k : Bytes} {w : Value} :
    Sorted ((k, w) :: fields) ↔ (∀ e ∈ fields, k < e.1) ∧ Sorted fields := by
  simp [Sorted]

lemma mem_insert {key : Bytes} {v : Value} {e : Bytes × Value} (h : e ∈ insert key v fields) :
    e = (key, v) ∨ e ∈ fields := by
  induction fields with
  | nil => simpa [insert] using h
  | cons e' rest ih =>
      obtain ⟨k, w⟩ := e'
      rw [insert] at h
      split_ifs at h with here before
      · rcases List.mem_cons.mp h with rfl | h
        · exact .inl rfl
        · exact .inr (List.mem_cons_of_mem _ h)
      · exact List.mem_cons.mp h
      · rcases List.mem_cons.mp h with rfl | h
        · exact .inr (List.mem_cons_self ..)
        · exact (ih h).imp_right (List.mem_cons_of_mem _)

/-- Putting an entry in keeps the order. -/
lemma Sorted.insert (h : Sorted fields) (key : Bytes) (v : Value) :
    Sorted (fields.insert key v) := by
  induction fields with
  | nil => simp [Fields.insert, Sorted]
  | cons e rest ih =>
      obtain ⟨k, w⟩ := e
      obtain ⟨below, tail⟩ := sorted_cons.mp h
      rw [Fields.insert]
      split_ifs with here before
      · subst here
        exact sorted_cons.mpr ⟨below, tail⟩
      · refine sorted_cons.mpr ⟨fun e he => ?_, h⟩
        rcases List.mem_cons.mp he with rfl | he
        · exact before
        · exact Bytes.lt_trans before (below e he)
      · refine sorted_cons.mpr ⟨fun e he => ?_, ih tail⟩
        rcases mem_insert he with rfl | he
        · exact Bytes.lt_of_not_lt here before
        · exact below e he

lemma sorted_foldl (pairs : List (Bytes × Value)) (h : Sorted fields) :
    Sorted (pairs.foldl (fun fields p => insert p.1 p.2 fields) fields) := by
  induction pairs generalizing fields with
  | nil => exact h
  | cons p rest ih => exact ih (h.insert p.1 p.2)

/-- A dictionary built from pairs is in order. -/
lemma sorted_ofPairs (pairs : List (Bytes × Value)) : Sorted (ofPairs pairs) :=
  sorted_foldl pairs sorted_nil

/-- An entry above all others goes to the end. -/
lemma insert_of_above {key : Bytes} {v : Value} (h : ∀ e ∈ fields, e.1 < key) :
    insert key v fields = fields ++ [(key, v)] := by
  induction fields with
  | nil => rfl
  | cons e rest ih =>
      obtain ⟨k, w⟩ := e
      have below : k < key := h (k, w) (by simp)
      have ne : key ≠ k := fun eq => Bytes.lt_irrefl k (eq ▸ below)
      have not : ¬key < k := fun above => Bytes.lt_irrefl k (Bytes.lt_trans below above)
      rw [insert, if_neg ne, if_neg not, ih fun e he => h e (List.mem_cons_of_mem _ he),
        List.cons_append]

/-- Entries that ascend already are put in as they stand. -/
lemma ofPairs_of_sorted (h : Sorted fields) : ofPairs fields = fields := by
  -- each entry is above those in front of it, so it goes to the end
  suffices ∀ (tail front : Fields), Sorted (front ++ tail) →
      tail.foldl (fun fields p => insert p.1 p.2 fields) front = front ++ tail from
    this fields [] h
  intro tail
  induction tail with
  | nil => intro front _; simp
  | cons e tail ih =>
      intro front hs
      have above : ∀ e' ∈ front, e'.1 < e.1 := by
        intro e' he'
        simp only [Sorted, List.map_append, List.pairwise_append] at hs
        exact hs.2.2 e'.1 (List.mem_map_of_mem he') e.1 (by simp)
      rw [List.foldl_cons, insert_of_above above, ih]
      · simp
      · simpa using hs

end Fields

end HostedRepl.Wire
