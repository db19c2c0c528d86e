/-
The exact value of a double.

* `Double.ofFloat_eq`: **the denotation of a double** as it is read from the
  bits is the one that the arithmetic of doubles unpacks.
* `Double.value`: the exact value, a rational number.
* `Double.value_pos_iff`: which doubles have a positive value.
* `Double.exists_of_value_pos`, `value_finite`: a positive value as a quotient of
  natural numbers.
* `abs_roundHalfEven_sub_le`: rounding a quotient moves it by a half at most.
-/
import Mathlib
import HostedRepl.Proofs.Decimal.ReadNumber

namespace HostedRepl.Decimal

open Float.Model (Format UnpackedFloat)
open Float.Model.UnpackedFloat

namespace Double

/-! ### Bits -/

/-- The sign is that of a number below zero. -/
def isMinus : Sign → Bool
  | .positive => false
  | .negative => true

/-- What an unpacked double denotes. -/
def ofUnpacked : UnpackedFloat → Double
  | .notANumber => .nan
  | .infinity s => .infinite (isMinus s)
  | .zero s => .finite (isMinus s) 0 (-1074)
  | .finite s m e _ => .finite (isMinus s) m e

lemma isMinus_ofBitVec : ∀ s : BitVec 1, isMinus (Sign.ofBitVec s) = decide (s.toNat = 1) := by
  decide

section

variable (b : BitVec Format.binary64.numBits)

lemma toNat_unpackMantissa : (unpackMantissa b).toNat = b.toNat % Nat.pow 2 52 := by
  simp [unpackMantissa, BitVec.extractLsb_toNat]

lemma toNat_unpackSign : (unpackSign b).toNat = b.toNat / Nat.pow 2 63 := by
  have lt : b.toNat < 2 ^ 64 := b.isLt
  have one : b.toNat / Nat.pow 2 63 < 2 := by
    rw [Nat.div_lt_iff_lt_mul (by decide)]
    exact lt
  simpa [unpackSign, BitVec.extractLsb_toNat, Nat.shiftRight_eq_div_pow] using
    Nat.mod_eq_of_lt one

end

/-- The leading one of a normal number stands before the bits of the mantissa. -/
lemma toNat_one_append (m : BitVec Format.binary64.mantissaBitsWithoutImplicit) :
    (1#1 ++ m).toNat = m.toNat + Nat.pow 2 52 := by
  have lt : m.toNat < 2 ^ 52 := m.isLt
  rw [BitVec.toNat_append, ← Nat.shiftLeft_add_eq_or_of_lt lt, Nat.shiftLeft_eq, add_comm]
  rfl

/-- **The denotation of a double**, read from its bits, is what it is unpacked to. -/
theorem ofFloat_eq (x : Float) : ofFloat x = ofUnpacked x.toModel.unpack := by
  change ofFloat x = ofUnpacked (unpack Format.binary64 x.toBits.toBitVec)
  have exponent := toNat_unpackExponent x.toBits.toBitVec
  have mantissa := toNat_unpackMantissa x.toBits.toBitVec
  have sign := toNat_unpackSign x.toBits.toBitVec
  have bits : x.toBits.toNat = x.toBits.toBitVec.toNat := rfl
  have greatest : (-1#_ : BitVec Format.binary64.exponentBits).toNat = 2047 := rfl
  have least : (0#_ : BitVec Format.binary64.exponentBits).toNat = 0 := rfl
  have nothing : (0#_ : BitVec Format.binary64.mantissaBitsWithoutImplicit).toNat = 0 := rfl
  have bias : (Format.binary64.exponentBias : ℤ) = 1023 := rfl
  rw [ofFloat, bits, ← exponent, ← mantissa, ← sign, ← isMinus_ofBitVec, unpack]
  simp only [← BitVec.toNat_inj, greatest, least, nothing]
  split_ifs with special fraction subnormal fraction
  · rfl
  · rfl
  · rw [fraction]
    rfl
  · rw [ofUnpacked, subnormal]
    rfl
  · rw [ofUnpacked, toNat_one_append, bias]
    rfl

/-! ### Values -/

/-- The exact value of a double that is a finite number. -/
def value : Double → ℚ
  | .finite negative m e => (if negative then -(m : ℚ) else m) * 2 ^ e
  | _ => 0

/-- **A double is finite and above zero** just if its exact value is positive. -/
lemma value_pos_iff {x : Float} : 0 < (ofFloat x).value ↔ x.isFinite = true ∧ ¬x ≤ 0.0 := by
  have zero : (0.0 : Float).toModel.unpack = .zero .positive := rfl
  have compared : x ≤ 0.0 ↔ x.toModel.unpack.le (0.0 : Float).toModel.unpack = true :=
    decide_eq_true_iff
  rw [compared, zero, ofFloat_eq]
  change _ ↔ x.toModel.unpack.isFinite = true ∧ _
  cases x.toModel.unpack with
  | notANumber => simp [ofUnpacked, value, UnpackedFloat.isFinite]
  | infinity s => simp [ofUnpacked, value, UnpackedFloat.isFinite]
  | zero s => cases s <;> simp [ofUnpacked, value, UnpackedFloat.le, UnpackedFloat.compare]
  | finite s m e pos =>
      have size : (0 : ℚ) < m * 2 ^ e := by positivity
      cases s with
      | positive =>
          simpa [ofUnpacked, value, isMinus, UnpackedFloat.isFinite, UnpackedFloat.le,
            UnpackedFloat.compare] using size
      | negative =>
          simpa [ofUnpacked, value, isMinus, UnpackedFloat.isFinite, UnpackedFloat.le,
            UnpackedFloat.compare] using size.le

/-- A double with a positive value is a positive number. -/
lemma exists_of_value_pos {d : Double} (pos : 0 < d.value) : ∃ m e, d = .finite false m e := by
  cases d with
  | nan => exact absurd pos (lt_irrefl 0)
  | infinite negative => exact absurd pos (lt_irrefl 0)
  | finite negative m e =>
      cases negative with
      | false => exact ⟨m, e, rfl⟩
      | true =>
          have size : (0 : ℚ) ≤ m * 2 ^ e := by positivity
          rw [value, if_pos rfl, neg_mul] at pos
          linarith

/-- The value as a quotient of natural numbers. -/
lemma value_finite (m : ℕ) (e : ℤ) : (finite false m e).value =
    (m * Nat.pow 2 e.toNat : ℕ) / (Nat.pow 2 (-e).toNat : ℕ) := by
  rw [value, if_neg Bool.false_ne_true]
  rcases le_total 0 e with nonneg | nonpos
  · obtain ⟨n, rfl⟩ := Int.eq_ofNat_of_zero_le nonneg
    simp
  · obtain ⟨n, rfl⟩ := Int.exists_eq_neg_ofNat nonpos
    simp [zpow_neg, div_eq_mul_inv]

end Double

/-! ### Rounding -/

/-- A quotient is rounded down or up, whichever is nearer. -/
lemma roundHalfEven_cases (num den : ℕ) :
    roundHalfEven num den = num / den ∧ 2 * (num % den) ≤ den ∨
      roundHalfEven num den = num / den + 1 ∧ den ≤ 2 * (num % den) := by
  rw [roundHalfEven]
  split_ifs with below above
  · exact .inl ⟨rfl, below.le⟩
  · exact .inr ⟨rfl, above.le⟩
  · rcases Nat.mod_two_eq_zero_or_one (num / den) with even | odd
    · exact .inl ⟨by rw [even, add_zero], by omega⟩
    · exact .inr ⟨by rw [odd], by omega⟩

/-- **Rounding a quotient** moves it by a half at most. -/
lemma abs_roundHalfEven_sub_le (num : ℕ) {den : ℕ} (pos : 0 < den) :
    |(roundHalfEven num den : ℚ) - num / den| ≤ 1 / 2 := by
  have positive : (0 : ℚ) < den := by exact_mod_cast pos
  have whole : (num : ℚ) = den * (num / den : ℕ) + (num % den : ℕ) := by
    exact_mod_cast (Nat.div_add_mod num den).symm
  have quotient : (num : ℚ) / den = (num / den : ℕ) + (num % den : ℕ) / den := by
    rw [whole, add_div, mul_div_cancel_left₀ _ positive.ne']
  rw [quotient]
  rcases roundHalfEven_cases num den with ⟨down, half⟩ | ⟨up, half⟩
  · have nonneg : 0 ≤ (num % den : ℕ) / (den : ℚ) := by positivity
    have half : (num % den : ℕ) / (den : ℚ) ≤ 1 / 2 := by
      rw [div_le_div_iff₀ positive two_pos]
      exact_mod_cast (by omega : num % den * 2 ≤ 1 * den)
    rw [down, abs_le]
    constructor <;> linarith
  · have small : (num % den : ℕ) < (den : ℚ) := by exact_mod_cast Nat.mod_lt num pos
    have fraction : (num % den : ℕ) / (den : ℚ) < 1 := (div_lt_one positive).mpr small
    have half : 1 / 2 ≤ (num % den : ℕ) / (den : ℚ) := by
      rw [div_le_div_iff₀ two_pos positive]
      exact_mod_cast (by omega : 1 * den ≤ num % den * 2)
    rw [up, abs_le]
    push_cast
    constructor <;> linarith

end HostedRepl.Decimal
