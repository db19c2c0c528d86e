/-
The numbers of a range.

The number of elements is computed from the distance of the bounds, which is cut
off where it leaves 64 bits. So a range is the progression from its start to its
end if their distance has 64 bits, and else as much of it as is less than
`2 ^ 63 - 1` away from the start.

* `IsProgression`: the terms of a progression on this side of its end.
* `rangeEnd`: the end that a range really has.
* `lt_rangeCount_iff`: a term counts if it is on this side of that end.
* `range_of_small_step`: where a million steps have 64 bits, the real end does not
  show.
* `range_progression`: **`range` gives the terms on this side of its real end**,
  or is refused if they are too many, and nothing it computes leaves 64 bits.
-/
import HostedRepl.Proofs.Lisp.Primitive

namespace HostedRepl.Lisp

open Decimal

/-! ### Progressions -/

/-- In steps of `step`, the term `x` comes before `stop`. -/
def Before (step x stop : ℤ) : Prop := if 0 < step then x < stop else stop < x

instance (step x stop : ℤ) : Decidable (Before step x stop) :=
  inferInstanceAs (Decidable (if 0 < step then x < stop else stop < x))

/-- The terms `start`, `start + step`, ... before `stop`. -/
def IsProgression (start stop step : ℤ) (xs : List ℤ) : Prop :=
  ∀ k : ℕ, xs[k]? = if Before step (start + k * step) stop then some (start + k * step) else none

namespace IsProgression

variable {start stop stop' step : ℤ} {xs ys : List ℤ}

/-- There is one list of these terms at most. -/
lemma unique (hx : IsProgression start stop step xs) (hy : IsProgression start stop step ys) :
    xs = ys :=
  List.ext_getElem? fun k => (hx k).trans (hy k).symm

/-- A place is in the list if its term comes before the end. -/
lemma lt_length_iff (h : IsProgression start stop step xs) (k : ℕ) :
    k < xs.length ↔ Before step (start + k * step) stop := by
  have term := h k
  split at term
  · next before =>
    obtain ⟨mem, -⟩ := List.getElem?_eq_some_iff.mp term
    exact iff_of_true mem before
  · next late => exact iff_of_false (Nat.not_lt.mpr (List.getElem?_eq_none_iff.mp term)) late

end IsProgression

/-- The end of a range: `stop`, or a nearer point if that is too far away. -/
def rangeEnd (start stop step : ℤ) : ℤ :=
  if 0 < step then min stop (start + (2 ^ 63 - 1)) else max stop (start - (2 ^ 63 - 1))

/-- An end whose distance has 64 bits is the real one. -/
lemma rangeEnd_of_lt {start stop step : ℤ}
    (h : (if 0 < step then stop - start else start - stop) < 2 ^ 63) :
    rangeEnd start stop step = stop := by
  rw [rangeEnd]
  split <;> simp_all <;> omega

/-- A term comes before an end just if its distance from the start is less. -/
lemma before_iff (start stop step : ℤ) (k : ℕ) :
    Before step (start + k * step) stop ↔
      k * (step.natAbs : ℤ) < if 0 < step then stop - start else start - stop := by
  rw [Before]
  split
  · next up =>
    rw [Int.natAbs_of_nonneg up.le]
    omega
  · next down =>
    rw [Int.ofNat_natAbs_of_nonpos (by omega), Int.mul_neg]
    omega

/-! ### Counting -/

lemma fits_span (low high : ℤ) : Fits (span low high) := by
  rw [Fits, span]
  simp only [Int.pow_eq]
  omega

lemma fits_rangeWidth (start stop step : ℤ) : Fits (rangeWidth start stop step) := by
  rw [rangeWidth]
  split <;> exact fits_span _ _

/-- As far as it is positive, the width of a range is the distance of its real end. -/
lemma max_rangeWidth (start stop step : ℤ) :
    max 0 (rangeWidth start stop step) =
      max 0 (if 0 < step then rangeEnd start stop step - start
        else start - rangeEnd start stop step) := by
  rw [rangeWidth, rangeEnd]
  split <;> simp only [span, Int.pow_eq] <;> omega

/-- **A term counts if it comes before the real end.** -/
lemma lt_rangeCount_iff {start stop step : ℤ} (nonzero : step ≠ 0) (k : ℕ) :
    (k : ℤ) < rangeCount start stop step ↔
      Before step (start + k * step) (rangeEnd start stop step) := by
  have positive : 0 < (step.natAbs : ℤ) := by omega
  have before : 0 ≤ k * (step.natAbs : ℤ) := by positivity
  have width := max_rangeWidth start stop step
  rw [before_iff, rangeCount]
  generalize (if 0 < step then rangeEnd start stop step - start
    else start - rangeEnd start stop step) = distance at width ⊢
  split
  · next empty => omega
  · next filled =>
    rw [Int.lt_add_one_iff, Int.le_ediv_iff_mul_le positive]
    omega

lemma rangeCount_nonneg (start stop step : ℤ) : 0 ≤ rangeCount start stop step := by
  rw [rangeCount]
  split
  · exact le_rfl
  · have := Int.ediv_nonneg (a := rangeWidth start stop step - 1) (b := step.natAbs) (by omega)
      (by omega)
    omega

/-- The terms before the real end of a range of 64-bit numbers, and their distances, have 64
bits. -/
lemma fits_of_before {a b s : Int64} {k : ℕ}
    (h : Before s.toInt (a.toInt + k * s.toInt) (rangeEnd a.toInt b.toInt s.toInt)) :
    Fits (k * s.toInt) ∧ Fits (a.toInt + k * s.toInt) := by
  have lower : 0 ≤ k * (s.toInt.natAbs : ℤ) := by positivity
  have ha := fits_toInt a
  have hb := fits_toInt b
  rw [before_iff, rangeEnd] at h
  unfold Fits at *
  by_cases up : 0 < s.toInt
  · rw [if_pos up, if_pos up] at h
    rw [Int.natAbs_of_nonneg up.le] at lower h
    omega
  · rw [if_neg up, if_neg up] at h
    rw [Int.ofNat_natAbs_of_nonpos (by omega), Int.mul_neg] at lower h
    omega

/-! ### Ranges -/

/-- The terms of a range. -/
lemma isProgression_range (start stop : ℤ) {step : ℤ} (nonzero : step ≠ 0) :
    IsProgression start (rangeEnd start stop step) step
      ((List.range (rangeCount start stop step).toNat).map fun k : ℕ => start + k * step) := by
  intro k
  have counts : k < (rangeCount start stop step).toNat ↔
      Before step (start + k * step) (rangeEnd start stop step) := by
    rw [← lt_rangeCount_iff nonzero]
    omega
  by_cases mem : k < (rangeCount start stop step).toNat
  · rw [List.getElem?_map, List.getElem?_range mem, if_pos (counts.mp mem)]
    rfl
  · rw [List.getElem?_eq_none (by simpa using mem), if_neg fun before => mem (counts.mpr before)]

/-- The numbers of a range, if there are not too many. -/
lemma rangeItems_eq {start stop step : ℤ} (nonzero : step ≠ 0) :
    rangeItems start stop step =
      if (rangeCount start stop step).toNat ≤ rangeLimit then
        .ok ((List.range (rangeCount start stop step).toNat).map fun k : ℕ =>
          .int (Int64.ofInt (start + k * step)))
      else .error (.limit (.rangeLength (rangeCount start stop step).toNat)) := by
  have nonneg := rangeCount_nonneg start stop step
  rw [rangeItems, if_neg nonzero]
  by_cases few : (rangeCount start stop step).toNat ≤ rangeLimit
  · rw [if_pos few]
    exact if_neg (by omega)
  · rw [if_neg few, Int.toNat_of_nonneg nonneg]
    exact if_pos (by omega)

/-- A list of numbers does not nest deep. -/
lemma depth_list_int (xs : List Int64) : (Value.list (xs.map .int)).depth ≤ depthLimit := by
  refine le_trans (Value.depth_list_le_iff (n := 0).mpr fun v hv => ?_) (by decide)
  obtain ⟨x, -, rfl⟩ := List.mem_map.mp hv
  exact le_rfl

/-- What `range` returns with a step. -/
lemma exists_range (a b s : Int64) (nonzero : s.toInt ≠ 0) :
    ∃ xs : List Int64,
      IsProgression a.toInt (rangeEnd a.toInt b.toInt s.toInt) s.toInt (xs.map Int64.toInt) ∧
      Primitive.range.Returns [.int a, .int b, .int s]
        (if xs.length ≤ rangeLimit then .ok (.list (xs.map .int))
          else .error (.limit (.rangeLength xs.length))) := by
  have terms := isProgression_range a.toInt b.toInt nonzero
  have computed : Primitive.range.compute [.int a, .int b, .int s] =
      Value.list <$> rangeItems a.toInt b.toInt s.toInt := rfl
  rw [rangeItems_eq nonzero] at computed
  generalize (rangeCount a.toInt b.toInt s.toInt).toNat = n at terms computed
  refine ⟨(List.range n).map fun k : ℕ => Int64.ofInt (a.toInt + k * s.toInt), ?_, ?_⟩
  · convert terms using 1
    rw [List.map_map]
    refine List.map_congr_left fun k mem => toInt_ofInt (fits_of_before (b := b) ?_).2
    exact (terms.lt_length_iff k).mp (by simpa using mem)
  · refine Primitive.returns_of_compute rfl ?_ fun v returned => ?_
    · rw [computed]
      split <;> simp_all
    · split at returned
      · cases returned
        exact depth_list_int _
      · cases returned

/-- With a step that is small enough, the real end only matters where there are too many terms
anyway. -/
lemma range_of_small_step {a b s : Int64}
    (small : rangeLimit * (s.toInt.natAbs : ℤ) < 2 ^ 63 - 1) {xs ys : List Int64}
    (hx : IsProgression a.toInt (rangeEnd a.toInt b.toInt s.toInt) s.toInt (xs.map Int64.toInt))
    (hy : IsProgression a.toInt b.toInt s.toInt (ys.map Int64.toInt)) :
    xs = ys ∨ rangeLimit < xs.length ∧ rangeLimit < ys.length := by
  by_cases near : (if 0 < s.toInt then b.toInt - a.toInt else a.toInt - b.toInt) < 2 ^ 63
  · rw [rangeEnd_of_lt near] at hx
    exact .inl (List.map_injective_iff.mpr (fun _ _ => Int64.toInt_inj.mp) (hx.unique hy))
  · refine .inr ⟨?_, ?_⟩
    · have counts := hx.lt_length_iff rangeLimit
      rw [List.length_map, before_iff, rangeEnd] at counts
      refine counts.mpr ?_
      by_cases up : 0 < s.toInt
      · rw [if_pos up] at near
        rw [if_pos up, if_pos up]
        omega
      · rw [if_neg up] at near
        rw [if_neg up, if_neg up]
        omega
    · have counts := hy.lt_length_iff rangeLimit
      rw [List.length_map, before_iff] at counts
      exact counts.mpr (by omega)

/-- **A range is the progression to its real end, or refused.** With a step other than zero and the
least 64-bit number, `range` gives the terms from its start on that come before its real end, if
there are no more than a million of them, and else the error that says how many there are. The real
end is the given one if its distance from the start has 64 bits; where it is not, but a million
steps have 64 bits, there are too many terms before either. None of the numbers computed on the way
leaves 64 bits. Without a step it is one, and without a start that is zero. -/
theorem range_progression (a b s : Int64) (nonzero : s ≠ 0) (least : s ≠ Int64.minValue) :
    (∃ xs : List Int64,
      IsProgression a.toInt (rangeEnd a.toInt b.toInt s.toInt) s.toInt (xs.map Int64.toInt) ∧
      Primitive.range.Returns [.int a, .int b, .int s]
        (if xs.length ≤ rangeLimit then .ok (.list (xs.map .int))
          else .error (.limit (.rangeLength xs.length))) ∧
      (rangeLimit * (s.toInt.natAbs : ℤ) < 2 ^ 63 - 1 → ∀ ys : List Int64,
        IsProgression a.toInt b.toInt s.toInt (ys.map Int64.toInt) →
        xs = ys ∨ rangeLimit < xs.length ∧ rangeLimit < ys.length) ∧
      ∀ k < xs.length, Fits (k * s.toInt) ∧ Fits (a.toInt + k * s.toInt)) ∧
    ((if 0 < s.toInt then b.toInt - a.toInt else a.toInt - b.toInt) < 2 ^ 63 →
      rangeEnd a.toInt b.toInt s.toInt = b.toInt) ∧
    Fits (rangeWidth a.toInt b.toInt s.toInt) ∧
    (0 < rangeWidth a.toInt b.toInt s.toInt → Fits (rangeWidth a.toInt b.toInt s.toInt - 1)) ∧
    Fits s.toInt.natAbs ∧
    ∀ result,
      (Primitive.range.Returns [.int a, .int b] result ↔
        Primitive.range.Returns [.int a, .int b, .int 1] result) ∧
      (Primitive.range.Returns [.int b] result ↔
        Primitive.range.Returns [.int 0, .int b, .int 1] result) := by
  have step : s.toInt ≠ 0 := fun same => nonzero (Int64.toInt_inj.mp same)
  have width := fits_rangeWidth a.toInt b.toInt s.toInt
  refine ⟨?_, rangeEnd_of_lt, width, fun filled => ⟨?_, ?_⟩, ⟨?_, ?_⟩, fun result => ?_⟩
  · obtain ⟨xs, terms, returned⟩ := exists_range a b s step
    refine ⟨xs, terms, returned, fun small ys hy => range_of_small_step small terms hy, ?_⟩
    intro k mem
    exact fits_of_before ((terms.lt_length_iff k).mp (by simpa using mem))
  · omega
  · exact lt_trans (by omega) width.2
  · omega
  · have low := s.le_toInt
    have high := s.toInt_lt
    have other : s.toInt ≠ -2 ^ 63 := fun same => least (Int64.toInt_inj.mp same)
    omega
  · have two : Primitive.range.compute [.int a, .int b] =
        Primitive.range.compute [.int a, .int b, .int 1] := rfl
    have one : Primitive.range.compute [.int b] =
        Primitive.range.compute [.int 0, .int b, .int 1] := rfl
    exact ⟨Primitive.returns_congr two rfl result, Primitive.returns_congr one rfl result⟩

/-- From the least 64-bit number to the greatest one, a tenth of the way at a time: the end is cut
off, and there are five of ten terms. -/
theorem range_progression_cut :
    let a := Int64.minValue
    let b := Int64.maxValue
    (2000000000000000000 : Int64) ≠ 0 ∧ 2000000000000000000 ≠ Int64.minValue ∧
      rangeEnd a.toInt b.toInt 2000000000000000000 = -1 ∧
      ∃ xs : List Int64, IsProgression a.toInt (-1) 2000000000000000000 (xs.map Int64.toInt) ∧
        Primitive.range.Returns [.int a, .int b, .int 2000000000000000000]
          (if xs.length ≤ rangeLimit then .ok (.list (xs.map .int))
            else .error (.limit (.rangeLength xs.length))) := by
  intro a b
  have nonzero : (2000000000000000000 : Int64) ≠ 0 := by decide
  have small : (2000000000000000000 : Int64) ≠ Int64.minValue := by decide
  have cut : rangeEnd a.toInt b.toInt 2000000000000000000 = -1 := by decide
  obtain ⟨⟨xs, terms, returned, -⟩, -⟩ := range_progression a b 2000000000000000000 nonzero small
  exact ⟨nonzero, small, cut, xs, cut ▸ terms, returned⟩

/-- A range of three terms whose bounds are too far apart for 64 bits has only the first one. -/
theorem far_range_short :
    Primitive.range.Returns
        [.int Int64.minValue, .int Int64.maxValue, .int Int64.maxValue]
        (.ok (.list [.int Int64.minValue])) ∧
      IsProgression Int64.minValue.toInt Int64.maxValue.toInt Int64.maxValue.toInt
        [Int64.minValue.toInt, -1, Int64.maxValue.toInt - 1] := by
  constructor
  · refine Primitive.returns_of_compute rfl rfl fun v returned => ?_
    cases returned
    exact depth_list_int [Int64.minValue]
  · intro k
    by_cases first : k < 3
    · interval_cases k <;> decide
    · have low : Int64.minValue.toInt = -9223372036854775808 := by decide
      have high : Int64.maxValue.toInt = 9223372036854775807 := by decide
      have late : ¬ Before Int64.maxValue.toInt
          (Int64.minValue.toInt + k * Int64.maxValue.toInt) Int64.maxValue.toInt := by
        rw [Before, high, low, if_pos (by decide)]
        omega
      rw [List.getElem?_eq_none (by simpa using first), if_neg late]

end HostedRepl.Lisp
