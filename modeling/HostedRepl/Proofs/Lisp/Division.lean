/-
Division and remainder of integers.

A quotient of integers has 64 bits unless the least 64-bit number is divided by
minus one. Exactly there `mod` is refused.

* `quotient_zero`, `quotient_int`: one division.
* `Num.dividedBy`: divisions in turn; `exact_of_dividedBy`: an integer result is
  the exact quotient by all divisors.
* `IsRemainder`: the remainder that is never negative.
* `integer_division`: **division and remainder are exact or refused**, and only
  an inexact quotient becomes a float.
-/
import HostedRepl.Proofs.Lisp.Primitive

namespace HostedRepl.Lisp

open Decimal

/-! ### One division -/

/-- A quotient has 64 bits, except that of the least number and minus one. -/
lemma fits_ediv {a d : Int64} (h : ¬ (a = Int64.minValue ∧ d = -1)) :
    Fits (a.toInt / d.toInt) := by
  have low := a.le_toInt
  have high := a.toInt_lt
  have small := Int.natAbs_ediv_le_natAbs a.toInt d.toInt
  rw [Fits]
  by_contra wide
  -- The quotient can only be `2 ^ 63`, so what is divided is the least number.
  have quotient : a.toInt / d.toInt = 2 ^ 63 := by omega
  have least : a.toInt = -2 ^ 63 := by omega
  have nonzero : d.toInt ≠ 0 := by
    intro zero
    rw [zero, Int.ediv_zero] at quotient
    omega
  have divided := Int.mul_ediv_add_emod a.toInt d.toInt
  have below := Int.emod_lt a.toInt nonzero
  have remainder := Int.emod_nonneg a.toInt nonzero
  rw [quotient] at divided
  have one : d.toInt = -1 := by omega
  exact h ⟨Int64.toInt_inj.mp least, Int64.toInt_inj.mp one⟩

namespace Num

lemma quotient_zero (a : Num) : quotient a (.int 0) = .error .divideByZero := by
  cases a <;> rfl

/-- The quotient of two integers: it is an integer if the division is exact and has 64 bits. -/
lemma quotient_int (a : Int64) {d : Int64} (nonzero : d ≠ 0) :
    quotient (.int a) (.int d) =
      .ok (if d.toInt ∣ a.toInt ∧ Fits (a.toInt / d.toInt) then
          .int (Int64.ofInt (a.toInt / d.toInt))
        else .float (toFloat (.int a) / toFloat (.int d))) := by
  rw [quotient, if_neg nonzero]
  by_cases exact : d.toInt ∣ a.toInt
  · rw [if_pos (Int.emod_eq_zero_of_dvd exact)]
    by_cases fits : Fits (a.toInt / d.toInt)
    · rw [int64?_of_fits fits, if_pos ⟨exact, fits⟩]
    · rw [int64?_of_not_fits fits, if_neg fun both => fits both.2]
  · rw [if_neg fun zero => exact (Int.dvd_of_emod_eq_zero zero), if_neg fun both => exact both.1]

/-- An exact quotient. -/
lemma quotient_exact {a d : Int64} (nonzero : d ≠ 0) (exact : d.toInt ∣ a.toInt)
    (h : ¬ (a = Int64.minValue ∧ d = -1)) :
    ∃ q : Int64, quotient (.int a) (.int d) = .ok (.int q) ∧ q.toInt * d.toInt = a.toInt := by
  have fits := fits_ediv h
  refine ⟨Int64.ofInt (a.toInt / d.toInt), ?_, ?_⟩
  · rw [quotient_int a nonzero, if_pos ⟨exact, fits⟩]
  · rw [toInt_ofInt fits, Int.ediv_mul_cancel exact]

/-- An inexact quotient is rounded. -/
lemma quotient_inexact {a d : Int64} (nonzero : d ≠ 0) (inexact : ¬ d.toInt ∣ a.toInt) :
    quotient (.int a) (.int d) = .ok (.float (toFloat (.int a) / toFloat (.int d))) := by
  rw [quotient_int a nonzero, if_neg fun both => inexact both.1]

/-- A quotient is an integer only if the division is exact. -/
lemma exact_of_quotient {acc : Num} {d q : Int64} (h : quotient acc (.int d) = .ok (.int q)) :
    ∃ a : Int64, acc = .int a ∧ d ≠ 0 ∧ q.toInt * d.toInt = a.toInt := by
  by_cases zero : d = 0
  · rw [zero, quotient_zero] at h
    cases h
  cases acc with
  | float x =>
      rw [quotient, if_neg zero] at h
      cases h
  | int a =>
      rw [quotient_int a zero] at h
      split at h
      · next both =>
        cases h
        exact ⟨a, rfl, zero, by rw [toInt_ofInt both.2, Int.ediv_mul_cancel both.1]⟩
      · cases h

/-! ### Many divisions -/

/-- The number divided by integers in turn. -/
def dividedBy (acc : Num) (ds : List Int64) : Except EvalError Num :=
  fold .div quotient acc (ds.map .int)

lemma dividedBy_nil (acc : Num) : dividedBy acc [] = .ok acc := rfl

lemma dividedBy_cons (acc : Num) (d : Int64) (ds : List Int64) :
    dividedBy acc (d :: ds) = (quotient acc (.int d)).bind (dividedBy · ds) := rfl

/-- Divisions in turn are done in turn. -/
lemma dividedBy_append (acc : Num) (ds more : List Int64) :
    dividedBy acc (ds ++ more) = (dividedBy acc ds).bind (dividedBy · more) := by
  induction ds generalizing acc with
  | nil => rfl
  | cons d ds ih =>
      rw [List.cons_append, dividedBy_cons, dividedBy_cons]
      cases quotient acc (.int d) with
      | error e => rfl
      | ok acc => exact ih acc

/-- **An integer result is the exact quotient by all divisors.** -/
lemma exact_of_dividedBy {acc : Num} {ds : List Int64} {q : Int64}
    (h : dividedBy acc ds = .ok (.int q)) :
    ∃ x : Int64, acc = .int x ∧ 0 ∉ ds ∧ q.toInt * (ds.map Int64.toInt).prod = x.toInt := by
  induction ds generalizing acc with
  | nil =>
      rw [dividedBy_nil] at h
      cases h
      exact ⟨q, rfl, List.not_mem_nil, by rw [List.map_nil, List.prod_nil, mul_one]⟩
  | cons d ds ih =>
      rw [dividedBy_cons] at h
      cases divided : quotient acc (.int d) with
      | error e =>
          rw [divided] at h
          cases h
      | ok next =>
          rw [divided] at h
          obtain ⟨a, rfl, others, product⟩ := ih h
          obtain ⟨x, rfl, nonzero, exact⟩ := exact_of_quotient divided
          refine ⟨x, rfl, List.not_mem_cons_of_ne_of_not_mem nonzero.symm others, ?_⟩
          calc q.toInt * ((d :: ds).map Int64.toInt).prod
              = q.toInt * (ds.map Int64.toInt).prod * d.toInt := by
                rw [List.map_cons, List.prod_cons]
                ring
            _ = x.toInt := by rw [product, exact]

end Num

/-! ### Remainders -/

/-- The remainder of `x` and `y` that is never negative. -/
def IsRemainder (x y r : ℤ) : Prop := 0 ≤ r ∧ r < |y| ∧ y ∣ x - r

lemma isRemainder_emod (x : ℤ) {y : ℤ} (nonzero : y ≠ 0) : IsRemainder x y (x % y) :=
  ⟨Int.emod_nonneg x nonzero, Int.emod_lt_abs x nonzero, Int.dvd_self_sub_emod⟩

lemma IsRemainder.eq_emod {x y r : ℤ} (h : IsRemainder x y r) : r = x % y := by
  obtain ⟨nonneg, small, divides⟩ := h
  calc r = r % |y| := (Int.emod_eq_of_lt nonneg small).symm
    _ = r % y := Int.emod_abs r y
    _ = x % y := Int.modEq_iff_dvd.mpr divides

/-- A remainder of 64-bit numbers has 64 bits. -/
lemma IsRemainder.fits {x r : ℤ} {y : Int64} (h : IsRemainder x y.toInt r) : Fits r := by
  have low := y.le_toInt
  have high := y.toInt_lt
  obtain ⟨nonneg, small, -⟩ := h
  rw [Int.abs_eq_natAbs] at small
  rw [Fits]
  omega

namespace Num

lemma modulus_zero (a : Num) : modulus a (.int 0) = .error .divideByZero := by
  cases a <;> rfl

/-- The remainder of two integers, unless their quotient has more than 64 bits. -/
lemma modulus_int {x y : Int64} (nonzero : y ≠ 0) (h : ¬ (x = Int64.minValue ∧ y = -1)) :
    ∃ r : Int64, modulus (.int x) (.int y) = .ok (.int r) ∧
      IsRemainder x.toInt y.toInt r.toInt := by
  have remainder := isRemainder_emod x.toInt fun zero => nonzero (Int64.toInt_inj.mp zero)
  have fits := remainder.fits
  refine ⟨Int64.ofInt (x.toInt % y.toInt), ?_, ?_⟩
  · rw [modulus, if_neg nonzero, int64?_of_fits (fits_ediv h), ofInt, int64?_of_fits fits]
  · rw [toInt_ofInt fits]
    exact remainder

end Num

/-- **Integer division and remainder are exact or refused.** With one integer `/` divides one by
it, and with more it divides the first by the others in turn. As long as that gives an integer, a
divisor of zero is an error, an exact quotient is that integer, and only an inexact one is rounded
to a float; so an integer result is the exact quotient by all divisors. `mod` of integers is an
error for zero, and if the quotient has more than 64 bits, and else the one remainder that is not
negative. -/
theorem integer_division :
    (∀ x : Int64,
      Primitive.div.Returns [.int x] ((Num.dividedBy (.int 1) [x]).map Num.toValue)) ∧
    (∀ (x d : Int64) (ds : List Int64),
      Primitive.div.Returns ((x :: d :: ds).map .int)
        ((Num.dividedBy (.int x) (d :: ds)).map Num.toValue)) ∧
    (∀ x : Int64, Num.dividedBy (.int x) [] = .ok (.int x)) ∧
    (∀ (x a : Int64) (ds : List Int64), Num.dividedBy (.int x) ds = .ok (.int a) →
      a.toInt * (ds.map Int64.toInt).prod = x.toInt ∧
      ∀ (d : Int64) (more : List Int64),
        (d = 0 → Num.dividedBy (.int x) (ds ++ d :: more) = .error .divideByZero) ∧
        (d ≠ 0 → d.toInt ∣ a.toInt → ¬ (a = Int64.minValue ∧ d = -1) →
          ∃ q : Int64, q.toInt * d.toInt = a.toInt ∧
            Num.dividedBy (.int x) (ds ++ d :: more) = Num.dividedBy (.int q) more) ∧
        (d ≠ 0 → ¬ d.toInt ∣ a.toInt →
          Num.dividedBy (.int x) (ds ++ d :: more) =
            Num.dividedBy (.float (Float.ofInt a.toInt / Float.ofInt d.toInt)) more)) ∧
    ∀ x y : Int64,
      (y = 0 → Primitive.mod.Returns [.int x, .int y] (.error .divideByZero)) ∧
      (x = Int64.minValue ∧ y = -1 → Primitive.mod.Returns [.int x, .int y] (.error .overflow)) ∧
      (y ≠ 0 → ¬ (x = Int64.minValue ∧ y = -1) →
        ∃ r : Int64, Primitive.mod.Returns [.int x, .int y] (.ok (.int r)) ∧
          IsRemainder x.toInt y.toInt r.toInt ∧
          ∀ other : ℤ, IsRemainder x.toInt y.toInt other → other = r.toInt) := by
  refine ⟨fun x => Primitive.returns_number rfl rfl,
    fun x d ds => Primitive.returns_number rfl rfl, fun x => rfl, ?_, ?_⟩
  · intro x a ds reached
    obtain ⟨x', same, -, product⟩ := Num.exact_of_dividedBy reached
    cases same
    refine ⟨product, fun d more => ?_⟩
    have next : Num.dividedBy (.int x) (ds ++ d :: more) =
        (Num.quotient (.int a) (.int d)).bind (Num.dividedBy · more) := by
      rw [Num.dividedBy_append, reached]
      exact Num.dividedBy_cons (.int a) d more
    rw [next]
    refine ⟨?_, fun nonzero exact representable => ?_, fun nonzero inexact => ?_⟩
    · rintro rfl
      rw [Num.quotient_zero]
      rfl
    · obtain ⟨q, divided, restored⟩ := Num.quotient_exact nonzero exact representable
      refine ⟨q, restored, ?_⟩
      rw [divided]
      rfl
    · rw [Num.quotient_inexact nonzero inexact]
      rfl
  · intro x y
    have returns : Primitive.mod.Returns [.int x, .int y]
        ((Num.modulus (.int x) (.int y)).map Num.toValue) := Primitive.returns_number rfl rfl
    refine ⟨?_, ?_, fun nonzero representable => ?_⟩
    · rintro rfl
      rwa [Num.modulus_zero] at returns
    · rintro ⟨rfl, rfl⟩
      exact returns
    · obtain ⟨r, computed, remainder⟩ := Num.modulus_int nonzero representable
      rw [computed] at returns
      exact ⟨r, returns, remainder, fun other h => h.eq_emod.trans remainder.eq_emod.symm⟩

/-- Twelve by two is six, from where each case goes on; and two remainders. -/
theorem integer_division_of_twelve :
    Num.dividedBy (.int 12) [2] = .ok (.int 6) ∧
      Num.dividedBy (.int 12) [2, 0, 5] = .error .divideByZero ∧
      (∃ q : Int64, q.toInt * 3 = 6 ∧ Num.dividedBy (.int 12) [2, 3] = .ok (.int q)) ∧
      Num.dividedBy (.int 12) [2, 4] =
        .ok (.float (Float.ofInt (6 : Int64).toInt / Float.ofInt (4 : Int64).toInt)) ∧
      Primitive.mod.Returns [.int 7, .int 0] (.error .divideByZero) ∧
      Primitive.mod.Returns [.int Int64.minValue, .int (-1)] (.error .overflow) ∧
      ∃ r : Int64, Primitive.mod.Returns [.int (-7), .int 2] (.ok (.int r)) ∧
        IsRemainder (-7) 2 r.toInt := by
  obtain ⟨-, -, -, steps, remainders⟩ := integer_division
  have six : Num.dividedBy (.int 12) [2] = .ok (.int 6) := rfl
  obtain ⟨-, step⟩ := steps 12 6 [2] six
  obtain ⟨q, exact, divided⟩ := (step 3 []).2.1 (by decide) (by decide) (by decide)
  obtain ⟨r, returned, remainder, -⟩ := (remainders (-7) 2).2.2 (by decide) (by decide)
  exact ⟨six, (step 0 [5]).1 rfl, ⟨q, exact, divided⟩, (step 4 []).2.2 (by decide) (by decide),
    (remainders 7 0).1 rfl, (remainders _ _).2.1 ⟨rfl, rfl⟩, r, returned, remainder⟩

/-- The remainder of the least 64-bit number and minus one is refused although it is zero; and their
quotient is a float although the division is exact. -/
theorem least_number_not_divided :
    Primitive.mod.Returns [.int Int64.minValue, .int (-1)] (.error .overflow) ∧
      IsRemainder Int64.minValue.toInt (-1) 0 ∧
      Primitive.div.Returns [.int Int64.minValue, .int (-1)]
        (.ok (.float (Float.ofInt Int64.minValue.toInt / Float.ofInt (-1 : Int64).toInt))) ∧
      -1 ∣ Int64.minValue.toInt := by
  refine ⟨?_, ⟨le_rfl, by decide, by decide⟩, ?_, by decide⟩
  · exact Primitive.returns_of_compute rfl rfl fun v returned => by cases returned
  · exact Primitive.returns_of_compute rfl rfl fun v returned => by
      cases returned
      exact Nat.zero_le depthLimit

end HostedRepl.Lisp
