/-
Integers in decimal.

* `Fits`: the integer has 64 bits; `int64?_of_fits`, `int64?_of_not_fits`.
* `digitsValue_toDigits`: written digits have the value of the number.
* `parseInt64?_of_digits`, `parseInt64?_minus`: digits are read as their value,
  and below zero after a minus sign.
* `toInt_of_parse_digits`, `toInt_of_parse_minus`: what is read is the value.
* `parseInt64?_toString`: a written 64-bit integer is read back.
-/
import Mathlib.Tactic
import HostedRepl.Decimal.Reading

namespace HostedRepl.Decimal

/-! ### 64 bits -/

/-- The integer has 64 bits. -/
def Fits (n : ℤ) : Prop := -2 ^ 63 ≤ n ∧ n < 2 ^ 63

instance (n : ℤ) : Decidable (Fits n) := inferInstanceAs (Decidable (_ ∧ _))

lemma fits_toInt (n : Int64) : Fits n.toInt := ⟨n.le_toInt, n.toInt_lt⟩

lemma toInt_ofInt {n : ℤ} (h : Fits n) : (Int64.ofInt n).toInt = n :=
  Int64.toInt_ofInt_of_le h.1 h.2

lemma int64?_of_fits {n : ℤ} (h : Fits n) : int64? n = some (Int64.ofInt n) := if_pos h

lemma int64?_of_not_fits {n : ℤ} (h : ¬ Fits n) : int64? n = none := if_neg h

/-! ### Digits -/

lemma range_of_isDigit {c : Char} (h : c.isDigit = true) : 48 ≤ c.toNat ∧ c.toNat ≤ 57 := by
  simpa [Char.isDigit, UInt32.le_iff_toNat_le] using h

lemma isDigit_of_mem_toDigits {n : ℕ} {c : Char} (h : c ∈ Nat.toDigits 10 n) :
    c.isDigit = true :=
  Nat.isDigit_of_mem_toDigits (by decide) (by decide) h

/-- Written digits have the value of the number. -/
lemma digitsValue_toDigits (n : ℕ) : digitsValue (Nat.toDigits 10 n) = n := by
  have value := Nat.ofDigitChars_ten_toDigits (n := n)
  rwa [Nat.ofDigitChars_eq_foldl] at value

/-! ### Reading integers -/

lemma int64?_toInt (n : Int64) : int64? n.toInt = some n := by
  rw [int64?, if_pos ⟨n.le_toInt, n.toInt_lt⟩, Int64.ofInt_toInt]

lemma splitSign_of_isDigit {c : Char} {cs : List Char} (h : c.isDigit = true) :
    splitSign (c :: cs) = (false, c :: cs) := by
  unfold splitSign
  split <;> simp_all

/-- Digits are read as their value. -/
lemma parseInt64?_of_digits {cs : List Char} (ne : cs ≠ []) (digits : ∀ c ∈ cs, c.isDigit = true)
    (small : digitsValue cs < 2 ^ 64) : parseInt64? cs = int64? (digitsValue cs) := by
  obtain ⟨c, rest, rfl⟩ := List.exists_cons_of_ne_nil ne
  have capped := cappedValue_eq small
  rw [parseInt64?, splitSign_of_isDigit (digits c (by simp))]
  simp only [List.all_eq_true.mpr digits, Nat.reducePow] at capped ⊢
  simp [capped]

/-- A minus sign and digits are read as their value below zero. -/
lemma parseInt64?_minus {cs : List Char} (ne : cs ≠ []) (digits : ∀ c ∈ cs, c.isDigit = true)
    (small : digitsValue cs < 2 ^ 64) : parseInt64? ('-' :: cs) = int64? (-digitsValue cs) := by
  have split : splitSign ('-' :: cs) = (true, cs) := rfl
  have capped := cappedValue_eq small
  rw [parseInt64?, split]
  simp only [List.all_eq_true.mpr digits, Nat.reducePow] at capped ⊢
  simp [ne, capped]

lemma toInt_of_int64? {k : ℤ} {n : Int64} (h : int64? k = some n) : n.toInt = k := by
  rw [int64?] at h
  split at h
  · next range =>
    obtain rfl := Option.some.inj h
    exact Int64.toInt_ofInt_of_le range.1 range.2
  · cases h

/-- The bound that ends a reading of digits is beyond 64 bits. -/
lemma cappedValue_eq_of_lt {cs : List Char} (h : cappedValue (Nat.pow 2 64) cs < Nat.pow 2 64) :
    cappedValue (Nat.pow 2 64) cs = digitsValue cs := by
  refine cappedValue_eq ?_
  by_contra large
  exact absurd (le_cappedValue (Nat.not_lt.mp large)) (Nat.not_le.mpr h)

/-- Digits that are read are within 64 bits. -/
lemma toInt_of_parse_digits {cs : List Char} {n : Int64} (ne : cs ≠ [])
    (digits : ∀ c ∈ cs, c.isDigit = true) (h : parseInt64? cs = some n) :
    n.toInt = digitsValue cs := by
  obtain ⟨c, rest, rfl⟩ := List.exists_cons_of_ne_nil ne
  rw [parseInt64?, splitSign_of_isDigit (digits c (by simp))] at h
  have read : int64? (cappedValue (Nat.pow 2 64) (c :: rest)) = some n := by
    simpa [List.all_eq_true.mpr digits] using h
  have value := toInt_of_int64? read
  have high := n.toInt_lt
  rw [value, cappedValue_eq_of_lt (by simp only [Nat.pow_eq] at value ⊢; omega)]

/-- Digits that are read after a minus sign are within 64 bits. -/
lemma toInt_of_parse_minus {cs : List Char} {n : Int64} (ne : cs ≠ [])
    (digits : ∀ c ∈ cs, c.isDigit = true) (h : parseInt64? ('-' :: cs) = some n) :
    n.toInt = -digitsValue cs := by
  have split : splitSign ('-' :: cs) = (true, cs) := rfl
  rw [parseInt64?, split] at h
  have read : int64? (-cappedValue (Nat.pow 2 64) cs) = some n := by
    simpa [ne, List.all_eq_true.mpr digits] using h
  have value := toInt_of_int64? read
  have low := n.le_toInt
  rw [value, cappedValue_eq_of_lt (by simp only [Nat.pow_eq] at value ⊢; omega)]

/-- An integer is written as its digits, after a minus sign if it is negative. -/
lemma toList_toString_int (n : ℤ) :
    (toString n).toList = (if n < 0 then ['-'] else []) ++ Nat.toDigits 10 n.natAbs := by
  rw [Int.toString_eq_repr, Int.repr_eq_if]
  by_cases negative : n < 0
  · rw [if_neg (by omega), if_pos negative, show (-n).toNat = n.natAbs by omega]
    simp
  · rw [if_pos (by omega), if_neg negative, show n.toNat = n.natAbs by omega]
    simp

/-- **A written 64-bit integer is read back.** -/
theorem parseInt64?_toString (n : Int64) : parseInt64? (toString n.toInt).toList = some n := by
  have low := n.le_toInt
  have high := n.toInt_lt
  have digits : ∀ c ∈ Nat.toDigits 10 n.toInt.natAbs, c.isDigit = true :=
    fun c => isDigit_of_mem_toDigits
  have small : digitsValue (Nat.toDigits 10 n.toInt.natAbs) < 2 ^ 64 := by
    rw [digitsValue_toDigits]
    omega
  rw [toList_toString_int]
  split
  · rw [List.singleton_append, parseInt64?_minus (by simp) digits small, digitsValue_toDigits,
      show -(n.toInt.natAbs : ℤ) = n.toInt by omega, int64?_toInt]
  · rw [List.nil_append, parseInt64?_of_digits (by simp) digits small, digitsValue_toDigits,
      show (n.toInt.natAbs : ℤ) = n.toInt by omega, int64?_toInt]

end HostedRepl.Decimal
