/-
Encoding and decoding.

* `Value.Fits`: no node of the value lies too deep, and its encoding is not
  too long.
* `Written.decode_fits`, `Written.decode_limit`: one call of `decode` on a
  stream that begins with a form.
* `calls`: the outcomes of a number of calls of `decode` on one stream.
* `decodeAll_encode`: what is read from the encoding of a value;
  `calls_encodings`: what is read from the encodings of any number of values
  in one stream. `encode_round_trip` puts both together.
-/
import Mathlib.Tactic
import HostedRepl.Proofs.Wire.Reading

namespace HostedRepl.Wire

/-- The value is within the limits of a frame. -/
structure Value.Fits (v : Value) : Prop where
  depth : ∀ d w, v.Node d w → d ≤ depthLimit
  length : v.encode.length ≤ frameLimit

lemma Value.fits_iff {v : Value} :
    v.Fits ↔ v.height ≤ depthLimit ∧ v.encode.length ≤ frameLimit := by
  rw [Value.height_le_iff]
  exact ⟨fun h => ⟨h.depth, h.length⟩, fun h => ⟨h.1, h.2⟩⟩

/-! ### One call -/

namespace Written

variable {h : Nat} {b : Bytes} {v : Value}

/-- A form within the limits is read as its value, and nothing after it is touched. -/
theorem decode_fits (w : Written h b v) (rest : Bytes) (depth : h ≤ depthLimit)
    (length : b.length ≤ frameLimit) : decode (b ++ rest) = ⟨.ok v, b.length, rest⟩ := by
  obtain ⟨c, tail, rfl⟩ := w.exists_cons
  have shorter : tail.length + 1 ≤ frameLimit := length
  have read := (w.settles (depthLimit + 1) (frameLimit - 1) c tail rest rfl (Nat.sub_le _ _)).ok
    ⟨Nat.lt_succ_of_le depth, by omega⟩
  have used : frameLimit - (frameLimit - 1 - tail.length) = (c :: tail).length := by
    rw [List.length_cons]
    omega
  rw [List.cons_append, decode, read]
  dsimp only
  rw [used]

/-- A form beyond the limits is refused for that reason. -/
theorem decode_limit (w : Written h b v) (rest : Bytes)
    (beyond : ¬(h ≤ depthLimit ∧ b.length ≤ frameLimit)) :
    ∃ e, (decode (b ++ rest)).result = .error e ∧ e.IsLimit := by
  obtain ⟨c, tail, rfl⟩ := w.exists_cons
  have read := w.settles (depthLimit + 1) (frameLimit - 1) c tail rest rfl (Nat.sub_le _ _)
  obtain ⟨e, input, failed, limit⟩ := read.limit fun fits => beyond
    ⟨Nat.le_of_lt_succ fits.1, by
      have := fits.2
      have : 1 ≤ frameLimit := by decide
      rw [List.length_cons]
      omega⟩
  refine ⟨e, ?_, limit⟩
  rw [List.cons_append, decode, failed]

end Written

namespace Value

variable {v : Value}

lemma WellFormed.decode_encode (wf : v.WellFormed) (fits : v.Fits) (rest : Bytes) :
    decode (v.encode ++ rest) = ⟨.ok v, v.encode.length, rest⟩ :=
  wf.written.decode_fits rest (fits_iff.mp fits).1 fits.length

/-- **A value within the limits is read back** from its encoding. -/
theorem WellFormed.decodeAll_encode (wf : v.WellFormed) (fits : v.Fits) :
    decodeAll v.encode = .ok v := by
  have read := wf.decode_encode fits []
  rw [List.append_nil] at read
  simp [decodeAll, read]

/-- A value beyond the limits is refused for that reason. -/
theorem WellFormed.decodeAll_limit (wf : v.WellFormed) (beyond : ¬v.Fits) :
    ∃ e, decodeAll v.encode = .error e ∧ e.IsLimit := by
  rw [fits_iff] at beyond
  obtain ⟨e, failed, limit⟩ := wf.written.decode_limit [] beyond
  rw [List.append_nil] at failed
  exact ⟨e, by simp [decodeAll, failed], limit⟩

end Value

/-! ### A stream -/

/-- The outcomes of the first `n` calls of `decode` on a stream, each with the number of bytes read
by its end. -/
def calls : (n position : Nat) → Bytes → List (Except DecodeError Value × Nat)
  | 0, _, _ => []
  | n + 1, position, bytes =>
    let decoded := decode bytes
    let position := position + decoded.consumed
    (decoded.result, position) :: calls n position decoded.rest

/-- The values of a stream that holds their encodings, each with the total length of the encodings
up to its own. -/
def placed (position : Nat) : List Value → List (Value × Nat)
  | [] => []
  | v :: vs => (v, position + v.encode.length) :: placed (position + v.encode.length) vs

/-- Every call at the end of a stream says so. -/
lemma calls_nil (n position : Nat) :
    calls n position [] = List.replicate n (.error .ended, position) := by
  induction n with
  | zero => rfl
  | succ n ih =>
      rw [calls, List.replicate_succ, ← ih]
      rfl

lemma placed_eq_mapIdx (position : Nat) (vs : List Value) :
    placed position vs =
      vs.mapIdx fun k v => (v, position + ((vs.take (k + 1)).flatMap Value.encode).length) := by
  induction vs generalizing position with
  | nil => rfl
  | cons v vs ih =>
      rw [placed, ih, List.mapIdx_cons]
      simp [Nat.add_assoc]

/-- The calls read the encodings one after another and then meet the end. -/
theorem calls_encodings {vs : List Value} (wf : ∀ v ∈ vs, v.WellFormed) (fits : ∀ v ∈ vs, v.Fits)
    (n position : Nat) :
    calls (vs.length + n) position (vs.flatMap Value.encode) =
      (placed position vs).map (fun p => (.ok p.1, p.2)) ++
        List.replicate n (.error .ended, position + (vs.flatMap Value.encode).length) := by
  induction vs generalizing position with
  | nil =>
      rw [List.length_nil, Nat.zero_add]
      exact calls_nil n position
  | cons v vs ih =>
      have first := (wf v (by simp)).decode_encode (fits v (by simp)) (vs.flatMap Value.encode)
      have others := ih (fun w hw => wf w (List.mem_cons_of_mem _ hw))
        (fun w hw => fits w (List.mem_cons_of_mem _ hw)) (position + v.encode.length)
      rw [List.length_cons, Nat.add_right_comm, calls, List.flatMap_cons, first]
      dsimp only
      rw [others, placed, List.map_cons, List.cons_append, List.length_append, Nat.add_assoc]

lemma framesWithin_encodings {vs : List Value} (wf : ∀ v ∈ vs, v.WellFormed)
    (fits : ∀ v ∈ vs, v.Fits) {steps : Nat} (enough : vs.length < steps) (position : Nat) :
    framesWithin steps position (vs.flatMap Value.encode) = (placed position vs, .ended) := by
  induction vs generalizing steps position with
  | nil =>
      obtain ⟨steps, rfl⟩ := Nat.exists_eq_add_of_le' (Nat.lt_of_le_of_lt (Nat.zero_le _) enough)
      rfl
  | cons v vs ih =>
      obtain ⟨steps, rfl⟩ := Nat.exists_eq_add_of_le' (Nat.lt_of_le_of_lt (Nat.zero_le _) enough)
      have first := (wf v (by simp)).decode_encode (fits v (by simp)) (vs.flatMap Value.encode)
      have others := ih (fun w hw => wf w (List.mem_cons_of_mem _ hw))
        (fun w hw => fits w (List.mem_cons_of_mem _ hw)) (by simpa using enough)
        (position + v.encode.length)
      rw [framesWithin, List.flatMap_cons, first]
      dsimp only
      rw [others, placed]

/-- A value takes a byte or more. -/
lemma length_le_encodings {vs : List Value} (wf : ∀ v ∈ vs, v.WellFormed) :
    vs.length ≤ (vs.flatMap Value.encode).length := by
  induction vs with
  | nil => exact Nat.le_refl _
  | cons v vs ih =>
      obtain ⟨c, tail, spelled⟩ := (wf v (by simp)).written.exists_cons
      have others := ih fun w hw => wf w (List.mem_cons_of_mem _ hw)
      rw [List.flatMap_cons, spelled, List.length_append, List.length_cons, List.length_cons]
      omega

/-- The values of a stream of encodings are those that were encoded. -/
theorem frames_encodings {vs : List Value} (wf : ∀ v ∈ vs, v.WellFormed) (fits : ∀ v ∈ vs, v.Fits) :
    frames (vs.flatMap Value.encode) = (placed 0 vs, .ended) :=
  framesWithin_encodings wf fits (Nat.lt_succ_of_le (length_le_encodings wf)) 0

/-! ### Both together -/

/-- **Encoding and decoding.** A value is read back from its encoding just if it is within the
limits, and refused for being beyond them otherwise. The encodings of values within the limits are
read one after another from one stream: the `k`-th call ends where the `k`-th encoding ends, and
every call after the last value meets the end of the stream. -/
theorem encode_round_trip {v : Value} {vs : List Value} (wf : v.WellFormed)
    (wfs : ∀ w ∈ vs, w.WellFormed) (fits : ∀ w ∈ vs, w.Fits) (n : Nat) :
    (decodeAll v.encode = .ok v ↔ v.Fits) ∧
    (¬v.Fits → decodeAll v.encode = .error .tooDeep ∨ decodeAll v.encode = .error .tooLarge) ∧
    calls (vs.length + n) 0 (vs.flatMap Value.encode) =
      (vs.mapIdx fun k w => (.ok w, ((vs.take (k + 1)).flatMap Value.encode).length)) ++
        List.replicate n (.error .ended, (vs.flatMap Value.encode).length) ∧
    frames (vs.flatMap Value.encode) =
      (vs.mapIdx fun k w => (w, ((vs.take (k + 1)).flatMap Value.encode).length), .ended) := by
  refine ⟨⟨fun read => ?_, wf.decodeAll_encode⟩, fun beyond => ?_, ?_, ?_⟩
  · by_contra beyond
    obtain ⟨e, failed, -⟩ := wf.decodeAll_limit beyond
    rw [failed] at read
    cases read
  · obtain ⟨e, failed, rfl | rfl⟩ := wf.decodeAll_limit beyond
    · exact .inl failed
    · exact .inr failed
  · rw [calls_encodings wfs fits, placed_eq_mapIdx, List.mapIdx_eq_zipIdx_map,
      List.mapIdx_eq_zipIdx_map, List.map_map]
    simp [Function.comp_def]
  · rw [frames_encodings wfs fits, placed_eq_mapIdx]
    simp

/-- A list of two values of other kinds, and that list after a number in one stream. -/
theorem encode_round_trip_list :
    decodeAll (Value.list [.bytes [104, 105], .dict [([97], .int 7)]]).encode =
      .ok (.list [.bytes [104, 105], .dict [([97], .int 7)]]) ∧
    calls 3 0 ([.int 5, .list [.bytes [104, 105], .dict [([97], .int 7)]]].flatMap Value.encode) =
      [(.ok (.int 5), 3), (.ok (.list [.bytes [104, 105], .dict [([97], .int 7)]]), 17),
        (.error .ended, 17)] := by
  have wf : (Value.list [.bytes [104, 105], .dict [([97], .int 7)]]).WellFormed := by
    have inner : (Value.dict [([97], .int 7)]).WellFormed :=
      .dict (List.pairwise_singleton _ _) (by simpa using .int 7)
    exact .list (by simpa using ⟨.bytes _, inner⟩)
  have fits : (Value.list [.bytes [104, 105], .dict [([97], .int 7)]]).Fits :=
    Value.fits_iff.mpr (by decide)
  have number : (Value.int 5).Fits := Value.fits_iff.mpr (by decide)
  obtain ⟨read, -, called, -⟩ := @encode_round_trip _ [.int 5, _] wf
    (by simpa using ⟨.int 5, wf⟩) (by simpa using ⟨number, fits⟩) 1
  exact ⟨read.mpr fits, called.trans (by rfl)⟩

end HostedRepl.Wire
