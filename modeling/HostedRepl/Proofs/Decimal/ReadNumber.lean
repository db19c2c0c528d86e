/-
What is read as a number is one.

A double is kept as bits, and an arithmetic operation on doubles unpacks
them, rounds, and packs the result again.

* `Double.ofFloat_of_isFinite`: the denotation read from the bits is a binary
  fraction for a finite double; `isFinite_of_not`: which doubles are finite.
* `isNaN_unpack_pack`: packing does not turn a number into none;
  `isNaN_mul`, `isNaN_div`, `isNaN_ofScientific`: neither do the operations
  from which the nearest double to a decimal is computed.
* `parseFloat?_isNaN`: a text that begins with a digit, after at most one sign,
  is not read as the double that is no number.
-/
import Mathlib
import HostedRepl.Decimal.Double
import HostedRepl.Proofs.Decimal.Integer

namespace HostedRepl.Decimal

open Float.Model (Format UnpackedFloat)
open Float.Model.UnpackedFloat

/-! ### Bits -/

lemma toNat_unpackExponent (b : BitVec Format.binary64.numBits) :
    (unpackExponent b).toNat = b.toNat / Nat.pow 2 52 % Nat.pow 2 11 := by
  simp [unpackExponent, BitVec.extractLsb_toNat, Nat.shiftRight_eq_div_pow]

/-- Bits are no number when the exponent is the greatest one and the mantissa is not zero. -/
lemma isNaN_unpack (b : BitVec Format.binary64.numBits) :
    (unpack Format.binary64 b).isNaN = true ↔
      unpackExponent b = -1#_ ∧ unpackMantissa b ≠ 0#_ := by
  rw [unpack]
  split_ifs <;> simp_all [UnpackedFloat.isNaN]

/-- Bits are a finite number when the exponent is not the greatest one. -/
lemma isFinite_unpack (b : BitVec Format.binary64.numBits) :
    (unpack Format.binary64 b).isFinite = true ↔ unpackExponent b ≠ -1#_ := by
  rw [unpack]
  split_ifs <;> simp_all [UnpackedFloat.isFinite]

/-- A finite double denotes a binary fraction. -/
lemma Double.ofFloat_of_isFinite {x : Float} (h : x.isFinite = true) :
    ∃ negative m q, Double.ofFloat x = .finite negative m q := by
  have exponent := toNat_unpackExponent x.toBits.toBitVec
  have small := (isFinite_unpack x.toBits.toBitVec).mp h
  rw [ne_eq, ← BitVec.toNat_inj, exponent] at small
  have biased : ¬x.toBits.toNat / Nat.pow 2 52 % Nat.pow 2 11 = 2047 := small
  rw [Double.ofFloat]
  simp only [if_neg biased]
  split_ifs
  · exact ⟨_, _, _, rfl⟩
  · exact ⟨_, _, _, rfl⟩

lemma isNaN_of_isFinite {x : Float} (h : x.isFinite = true) : x.isNaN = false := by
  change x.toModel.unpack.isFinite = true at h
  change x.toModel.unpack.isNaN = false
  cases unpacked : x.toModel.unpack with
  | notANumber | infinity => rw [unpacked] at h; cases h
  | zero | finite => rfl

/-- A double is finite, an infinity, or no number. -/
lemma isFinite_of_not {x : Float} (nan : x.isNaN = false) (inf : x.isInf = false) :
    x.isFinite = true := by
  change x.toModel.unpack.isNaN = false at nan
  change x.toModel.unpack.isInf = false at inf
  change x.toModel.unpack.isFinite = true
  cases unpacked : x.toModel.unpack with
  | notANumber => rw [unpacked] at nan; cases nan
  | infinity s => rw [unpacked] at inf; cases inf
  | zero | finite => rfl

/-- The bits of a number are those of a number. -/
lemma isNaN_unpack_pack {f : UnpackedFloat} (h : f.isNaN = false) :
    (unpack Format.binary64 (pack Format.binary64 f)).isNaN = false := by
  rw [← Bool.not_eq_true, isNaN_unpack]
  fun_cases pack with
  | case1 => cases h
  | case2 s => simp [packedInfinity]
  | case3 s => simp [packedZero]
  | case4 s m e hm biased tooLarge => simp [packedInfinity]
  | case5 s m e hm bits biased inRange normal =>
      rintro ⟨top, -⟩
      rw [unpackExponent_packComponents, ← BitVec.toNat_inj] at top
      have below : ¬Nat.pow 2 11 ≤ biased + 1 := inRange
      simp at top below
      omega
  | case6 => simp

/-! ### Operations -/

lemma isNaN_roundWithAccuracy (s : Sign) (m : ℕ) (e : ℤ) (a : Accuracy) :
    (roundWithAccuracy Format.binary64 s m e a).isNaN = false := by
  rw [roundWithAccuracy]
  dsimp only
  split_ifs <;> rfl

lemma isNaN_normalize (n e : ℤ) (s : Sign) :
    (UnpackedFloat.normalize Format.binary64 n e s).isNaN = false := by
  rw [UnpackedFloat.normalize]
  split
  · exact isNaN_roundWithAccuracy _ _ _ _
  · rfl
  · exact isNaN_roundWithAccuracy _ _ _ _

section

variable {f : UnpackedFloat} {s : Sign} {m : ℕ} {e : ℤ} {hm : 0 < m}

/-- A number times a finite one that is not zero. -/
lemma isNaN_mul (hf : f.isNaN = false) :
    (mul Format.binary64 f (.finite s m e hm)).isNaN = false := by
  cases f with
  | notANumber => cases hf
  | infinity | zero => rfl
  | finite => exact isNaN_roundWithAccuracy _ _ _ _

/-- A number divided by a finite one that is not zero. -/
lemma isNaN_div (hf : f.isNaN = false) :
    (div Format.binary64 f (.finite s m e hm)).isNaN = false := by
  cases f with
  | notANumber => cases hf
  | infinity | zero => rfl
  | finite => exact isNaN_roundWithAccuracy _ _ _ _

end

/-- The number is finite and not zero. -/
def IsProper (f : UnpackedFloat) : Prop := ∃ s m e hm, f = .finite s m e hm

lemma isProper_iff {f : UnpackedFloat} :
    IsProper f ↔ (match f with | .finite .. => true | _ => false) = true := by
  cases f with
  | finite s m e hm => exact ⟨fun _ => rfl, fun _ => ⟨s, m, e, hm, rfl⟩⟩
  | notANumber | infinity | zero =>
      refine ⟨?_, nofun⟩
      rintro ⟨_, _, _, _, ⟨⟩⟩

instance (f : UnpackedFloat) : Decidable (IsProper f) := decidable_of_iff _ isProper_iff.symm

/-- The powers of ten that doubles have exactly are proper numbers. -/
lemma isProper_power : ∀ e : Fin Float.exactlyRepresentablePowersOfTen.size,
    IsProper Float.exactlyRepresentablePowersOfTen[e].toModel.unpack := by decide +kernel

lemma isNaN_ofScientific (m : ℕ) (negative : Bool) (e : ℕ) :
    (Float.ofScientific m negative e).isNaN = false := by
  rw [Float.ofScientific]
  split
  · rename_i small
    have whole : m.toUInt64.toFloat.toModel.unpack.isNaN = false :=
      isNaN_unpack_pack (isNaN_normalize _ _ _)
    have inTable : e < Float.exactlyRepresentablePowersOfTen.size := Nat.lt_succ_of_le small.2
    have proper : IsProper Float.exactlyRepresentablePowersOfTen[e].toModel.unpack :=
      isProper_power ⟨e, inTable⟩
    obtain ⟨s, n, k, hn, power⟩ := proper
    dsimp only
    split
    · refine isNaN_unpack_pack ?_
      rw [power]
      exact isNaN_div whole
    · refine isNaN_unpack_pack ?_
      rw [power]
      exact isNaN_mul whole
  · refine isNaN_unpack_pack ?_
    fun_cases UnpackedFloat.ofScientific
    · rfl
    · rfl
    · rfl
    · exact isNaN_mul rfl
    · exact isNaN_div rfl

lemma isNaN_neg {x : Float} (h : x.isNaN = false) : (-x).isNaN = false := by
  refine isNaN_unpack_pack ?_
  change x.toModel.unpack.isNaN = false at h
  cases unpacked : x.toModel.unpack with
  | notANumber =>
      rw [unpacked] at h
      cases h
  | infinity | zero | finite => rfl

/-! ### Texts -/

lemma isNaN_nearestFloat (negative : Bool) (m : ℕ) (e : ℤ) :
    (nearestFloat negative m e).isNaN = false := by
  have size : (if m = 0 ∨ ((Nat.toDigits 10 m).length : ℤ) + e < -330 then (0.0 : Float)
      else if 310 < ((Nat.toDigits 10 m).length : ℤ) + e then 1.0 / 0.0
      else Float.ofScientific m (e < 0) e.natAbs).isNaN = false := by
    split_ifs
    · exact isNaN_ofScientific 0 true 1
    · decide +kernel
    · exact isNaN_ofScientific _ _ _
  rw [nearestFloat]
  cases negative with
  | true => exact isNaN_neg size
  | false => exact size

lemma isNaN_parseDecimal? {negative : Bool} {cs : List Char} {x : Float}
    (h : parseDecimal? negative cs = some x) : x.isNaN = false := by
  rw [parseDecimal?] at h
  dsimp only at h
  split at h
  · cases h
  · obtain ⟨exponent, -, h⟩ := Option.bind_eq_some_iff.mp h
    obtain rfl := Option.some.inj h
    exact isNaN_nearestFloat _ _ _

lemma toLower_of_isDigit {c : Char} (h : c.isDigit = true) : c.toLower = c := by
  have range := range_of_isDigit h
  rw [Char.toLower, dif_neg]
  rintro ⟨above, -⟩
  have above : 65 ≤ c.toNat := by simpa [UInt32.le_iff_toNat_le] using above
  omega

/-- **A text that begins like a number is read as one.** -/
theorem parseFloat?_isNaN {cs : List Char} {x : Float}
    (digit : ((splitSign cs).2.head?.map Char.isDigit).getD false = true)
    (h : parseFloat? cs = some x) : x.isNaN = false := by
  rw [parseFloat?] at h
  dsimp only at h
  obtain ⟨c, rest, body⟩ : ∃ c rest, (splitSign cs).2 = c :: rest := by
    cases body : (splitSign cs).2 with
    | nil =>
        rw [body] at digit
        cases digit
    | cons c rest => exact ⟨c, rest, rfl⟩
  have first : c.isDigit = true := by simpa [body] using digit
  split at h
  · rename_i named
    have := congrArg String.toList named
    rw [body, String.toList_ofList, List.map_cons, toLower_of_isDigit first] at this
    obtain rfl := (List.cons.inj this).1
    cases first
  · obtain rfl := Option.some.inj h
    split <;> decide +kernel
  · obtain rfl := Option.some.inj h
    split <;> decide +kernel
  · exact isNaN_parseDecimal? h

end HostedRepl.Decimal
