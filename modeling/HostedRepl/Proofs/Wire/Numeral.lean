/-
Decimal numerals on the wire: what the digits of lengths and integers denote.

* `Bytes.digitsValue`: the value of digits, the most significant first;
  `digitsValue_cons` splits off the first one, and `digitsValue_ofNat` reads
  written numbers back.
* `Bytes.Numeral`: digits without a leading zero; `Numeral.pow_le` bounds
  their number by the value, so that the written form of a 64-bit integer
  has at most 20 characters.
* `IntegerText`: the one written form of an integer: a zero, a numeral, or a
  minus sign and a numeral; `integerText_ofInt`: the form that is written.
* `IntegerText.isCanonical`, `IntegerText.parse`: the tests a reader makes.
-/
import Mathlib.Tactic
import HostedRepl.Proofs.Decimal.Integer
import HostedRepl.Wire.Decode

namespace HostedRepl.Wire

namespace Bytes

/-- The character of a byte below 128. -/
def toChar (b : UInt8) : Char := Char.ofNat b.toNat

/-- The value of decimal digits, the most significant first. -/
def digitsValue (ds : Bytes) : Nat := ds.foldl (fun n b => 10 * n + digitValue b) 0

/-- At least one digit, and no zero in front. -/
structure Numeral (ds : Bytes) : Prop where
  ne_nil : ds ≠ []
  digits : ∀ d ∈ ds, isDigit d = true
  led : ds.head? ≠ some 48

/-! ### Digits -/

lemma isDigit_iff {b : UInt8} : isDigit b = true ↔ 48 ≤ b.toNat ∧ b.toNat ≤ 57 := by
  simp [isDigit, UInt8.le_iff_toNat_le]

lemma toNat_ofNat_of_lt {n : Nat} (h : n < 128) : (Char.ofNat n).toNat = n := by
  have each : ∀ n < 128, (Char.ofNat n).toNat = n := by decide
  exact each n h

lemma toNat_toChar {b : UInt8} (h : b.toNat < 128) : (toChar b).toNat = b.toNat :=
  toNat_ofNat_of_lt h

lemma isDigit_toChar {b : UInt8} (h : isDigit b = true) : (toChar b).isDigit = true := by
  have range := isDigit_iff.1 h
  have same := toNat_toChar (b := b) (by omega)
  simp only [Char.isDigit, Bool.and_eq_true, decide_eq_true_eq, ge_iff_le, UInt32.le_iff_toNat_le]
  change 48 ≤ (toChar b).toNat ∧ (toChar b).toNat ≤ 57
  omega

/-- A digit keeps its number as a byte. -/
lemma toNat_toUInt8 {c : Char} (h : c.isDigit = true) : c.toNat.toUInt8.toNat = c.toNat := by
  have range := Decimal.range_of_isDigit h
  simp only [Nat.toUInt8, UInt8.toNat_ofNat']
  omega

lemma isDigit_toUInt8 {c : Char} (h : c.isDigit = true) : isDigit c.toNat.toUInt8 = true := by
  rw [isDigit_iff, toNat_toUInt8 h]
  exact Decimal.range_of_isDigit h

/-! ### The value of digits -/

lemma foldl_digits (ds : Bytes) (n : Nat) :
    ds.foldl (fun n b => 10 * n + digitValue b) n = 10 ^ ds.length * n + digitsValue ds := by
  induction ds generalizing n with
  | nil => simp [digitsValue]
  | cons d ds ih =>
      have first : digitsValue (d :: ds) = 10 ^ ds.length * digitValue d + digitsValue ds := by
        rw [digitsValue, List.foldl_cons, ih, Nat.mul_zero, Nat.zero_add]
      rw [List.foldl_cons, ih, first, List.length_cons, pow_succ]
      ring

lemma digitsValue_cons (d : UInt8) (ds : Bytes) :
    digitsValue (d :: ds) = 10 ^ ds.length * digitValue d + digitsValue ds := by
  rw [digitsValue, List.foldl_cons, foldl_digits, Nat.mul_zero, Nat.zero_add]

/-- The same digits as characters have the same value. -/
lemma digitsValue_map_toChar {ds : Bytes} (h : ∀ d ∈ ds, isDigit d = true) :
    Decimal.digitsValue (ds.map toChar) = digitsValue ds := by
  rw [Decimal.digitsValue, digitsValue, List.foldl_map]
  refine List.foldl_ext _ _ 0 fun n d hd => ?_
  have range := isDigit_iff.1 (h d hd)
  rw [toNat_toChar (by omega), digitValue]

/-- Ascii digits as bytes have the value of the characters. -/
lemma digitsValue_ofAscii {cs : List Char} (h : ∀ c ∈ cs, c.isDigit = true) :
    digitsValue (ofAscii cs) = Nat.ofDigitChars 10 cs 0 := by
  rw [digitsValue, ofAscii, List.foldl_map, Nat.ofDigitChars_eq_foldl]
  refine List.foldl_ext _ _ 0 fun n c hc => ?_
  rw [digitValue, toNat_toUInt8 (h c hc)]
  rfl

/-- A written number reads as that number. -/
lemma digitsValue_ofNat (n : Nat) : digitsValue (ofNat n) = n := by
  rw [ofNat, digitsValue_ofAscii fun c => Decimal.isDigit_of_mem_toDigits]
  exact Nat.ofDigitChars_ten_toDigits

lemma isDigit_of_mem_ofNat {n : Nat} {d : UInt8} (h : d ∈ ofNat n) : isDigit d = true := by
  obtain ⟨c, hc, rfl⟩ := List.mem_map.mp h
  exact isDigit_toUInt8 (Decimal.isDigit_of_mem_toDigits hc)

lemma ofNat_ne_nil (n : Nat) : ofNat n ≠ [] := by
  simp [ofNat, ofAscii]

/-! ### Numerals -/

namespace Numeral

lemma cons_of {ds : Bytes} (h : Numeral ds) : ∃ d rest, ds = d :: rest ∧ 49 ≤ d.toNat := by
  obtain ⟨d, rest, rfl⟩ := List.exists_cons_of_ne_nil h.ne_nil
  have range := isDigit_iff.1 (h.digits d (by simp))
  have led : d ≠ 48 := by simpa using h.led
  have : d.toNat ≠ 48 := fun e => led (UInt8.toNat_inj.1 e)
  exact ⟨d, rest, rfl, by omega⟩

/-- The first digit counts with its place. -/
lemma pow_le {ds : Bytes} (h : Numeral ds) : 10 ^ (ds.length - 1) ≤ digitsValue ds := by
  obtain ⟨d, rest, rfl, hd⟩ := h.cons_of
  have one : 1 ≤ digitValue d := by rw [digitValue]; omega
  calc 10 ^ ((d :: rest).length - 1) = 10 ^ rest.length * 1 := by simp
    _ ≤ 10 ^ rest.length * digitValue d := Nat.mul_le_mul_left _ one
    _ ≤ digitsValue (d :: rest) := by rw [digitsValue_cons]; omega

/-- A numeral below a power of ten has no more digits than the exponent. -/
lemma length_le {ds : Bytes} (h : Numeral ds) {k : Nat} (hk : digitsValue ds < 10 ^ k) :
    ds.length ≤ k := by
  have lt : ds.length - 1 < k := (Nat.pow_lt_pow_iff_right (by decide)).1 (h.pow_le.trans_lt hk)
  omega

lemma pos {ds : Bytes} (h : Numeral ds) : 0 < digitsValue ds :=
  lt_of_lt_of_le (by positivity) h.pow_le

end Numeral

/-- The first digit of a positive number is no zero. -/
lemma head?_toDigits {n : Nat} (hn : 0 < n) : (Nat.toDigits 10 n).head? ≠ some '0' := by
  induction n using Nat.strong_induction_on with
  | _ n ih =>
      rcases Nat.lt_or_ge n 10 with small | large
      · rw [Nat.toDigits_of_lt_base small]
        interval_cases n <;> decide
      · rw [Nat.toDigits_of_base_le (by decide) large,
          List.head?_append_of_ne_nil _ Nat.toDigits_ne_nil]
        exact ih (n / 10) (by omega) (by omega)

/-- A positive number is written without a zero in front. -/
lemma numeral_ofNat {n : Nat} (hn : 0 < n) : Numeral (ofNat n) where
  ne_nil := ofNat_ne_nil n
  digits _ h := isDigit_of_mem_ofNat h
  led := by
    intro zero
    rw [ofNat, ofAscii, List.head?_map, Option.map_eq_some_iff] at zero
    obtain ⟨c, hc, hz⟩ := zero
    have digit := Decimal.isDigit_of_mem_toDigits (List.mem_of_mem_head? hc)
    have same : c.toNat = 48 := by rw [← toNat_toUInt8 digit, hz]; rfl
    have : c = '0' := by rw [← Char.ofNat_toNat c, same]
    exact head?_toDigits hn (this ▸ hc)

end Bytes

/-! ### Integers -/

open Bytes

/-- The one written form of a 64-bit integer. -/
inductive IntegerText : Bytes → Int64 → Prop where
  | zero : IntegerText [48] 0
  | positive {ds : Bytes} {n : Int64} : Numeral ds → n.toInt = digitsValue ds → IntegerText ds n
  | negative {ds : Bytes} {n : Int64} : Numeral ds → n.toInt = -digitsValue ds →
      IntegerText (45 :: ds) n

/-- What is written for an integer is its written form. -/
lemma integerText_ofInt (n : Int64) : IntegerText (ofInt n.toInt) n := by
  rcases lt_trichotomy n.toInt 0 with below | zero | above
  · rw [ofInt, if_pos below]
    refine .negative (numeral_ofNat (by omega)) ?_
    rw [digitsValue_ofNat]
    omega
  · have : n = 0 := Int64.toInt_inj.1 (by simpa using zero)
    subst this
    exact .zero
  · rw [ofInt, if_neg (by omega)]
    refine .positive (numeral_ofNat (by omega)) ?_
    rw [digitsValue_ofNat]
    omega

namespace IntegerText

/-- A numeral of a 64-bit integer has at most 19 digits. -/
lemma length_le_of_numeral {ds : Bytes} (h : Numeral ds) (small : digitsValue ds ≤ 2 ^ 63) :
    ds.length ≤ 19 :=
  h.length_le (small.trans_lt (by norm_num))

/-- The characters of the written form: a minus sign may come first, the rest are digits, and there
are at most 20. -/
lemma shape {text : Bytes} {n : Int64} (h : IntegerText text n) :
    ∃ sign ds, text = sign ++ ds ∧ (sign = [] ∨ sign = [45]) ∧ (∀ d ∈ ds, isDigit d = true) ∧
      sign.length + ds.length ≤ 20 := by
  have low := n.le_toInt
  have high := n.toInt_lt
  cases h with
  | zero => exact ⟨[], [48], rfl, .inl rfl, List.forall_mem_singleton.mpr rfl, by simp⟩
  | positive num value =>
      have := length_le_of_numeral num (by omega)
      exact ⟨[], text, rfl, .inl rfl, num.digits, by simpa using by omega⟩
  | @negative ds _ num value =>
      have := length_le_of_numeral num (by omega)
      exact ⟨[45], ds, rfl, .inr rfl, num.digits, by simpa using by omega⟩

end IntegerText

/-! ### Reading integers -/

namespace Bytes.Numeral

variable {ds : Bytes}

lemma isDigit_map (h : Numeral ds) : ∀ c ∈ ds.map toChar, c.isDigit = true := by
  intro c hc
  obtain ⟨d, hd, rfl⟩ := List.mem_map.mp hc
  exact isDigit_toChar (h.digits d hd)

/-- A numeral as characters begins with another digit than zero. -/
lemma map_eq_cons (h : Numeral ds) : ∃ c cs, ds.map toChar = c :: cs ∧ c ≠ '0' := by
  obtain ⟨d, rest, rfl, hd⟩ := h.cons_of
  refine ⟨toChar d, rest.map toChar, rfl, fun zero => ?_⟩
  have range := isDigit_iff.1 (h.digits d (by simp))
  have same := toNat_toChar (b := d) (by omega)
  rw [zero] at same
  change 48 = d.toNat at same
  omega

lemma isCanonical_map (h : Numeral ds) : Decoder.isCanonical (ds.map toChar) = true := by
  have digits := h.isDigit_map
  obtain ⟨c, cs, eq, led⟩ := h.map_eq_cons
  rw [eq] at digits ⊢
  unfold Decoder.isCanonical
  split <;> simp_all

lemma isCanonical_minus (h : Numeral ds) :
    Decoder.isCanonical ('-' :: ds.map toChar) = true := by
  have digits := h.isDigit_map
  obtain ⟨c, cs, eq, led⟩ := h.map_eq_cons
  rw [eq] at digits ⊢
  unfold Decoder.isCanonical
  simp_all

end Bytes.Numeral

/-- The written form of an integer passes as one and reads as the integer. -/
lemma IntegerText.reads {text : Bytes} {n : Int64} (h : IntegerText text n) :
    Decoder.isCanonical (text.map toChar) = true ∧
      Decimal.parseInt64? (text.map toChar) = some n := by
  have low := n.le_toInt
  have high := n.toInt_lt
  cases h with
  | zero => exact ⟨rfl, rfl⟩
  | positive num value =>
      have same := digitsValue_map_toChar num.digits
      refine ⟨num.isCanonical_map, ?_⟩
      rw [Decimal.parseInt64?_of_digits (by simpa using num.ne_nil) num.isDigit_map (by omega), same,
        ← value, Decimal.int64?_toInt]
  | negative num value =>
      have same := digitsValue_map_toChar num.digits
      refine ⟨num.isCanonical_minus, ?_⟩
      change Decimal.parseInt64? ('-' :: _) = _
      rw [Decimal.parseInt64?_minus (by simpa using num.ne_nil) num.isDigit_map (by omega), same,
        ← value, Decimal.int64?_toInt]

end HostedRepl.Wire
