/-
Sums, products, differences and comparisons of integers.

A sum is computed from the left, and every number on the way has to have 64
bits. So a sum can be refused although it has 64 bits itself; and it is refused
in each of the ways in which it can be asked for, or in none.

* `Num.folded`: integers combined from the left; `folded_exact`,
  `folded_overflow`: the result is exact, or refused.
* `Primitive.Exact`: the result of a call is the exact value, and is refused if
  that of the first few arguments does not fit.
* `Primitive.Folds`: what sums and products have in common; `Folds.reduce`,
  `apply_primitive`: **`reduce` and `apply` agree with a call**.
* `Primitive.returns_compare`: comparisons of integers are exact.
* `integer_arithmetic`: **integers never wrap, however they are combined**.
-/
import HostedRepl.Proofs.Lisp.Primitive
import HostedRepl.Proofs.Lisp.Evaluation

namespace HostedRepl.Lisp

open Decimal

/-! ### Combining integers -/

namespace Num

variable {p : Primitive} {exact : ℤ → ℤ → ℤ} {rounded : Float → Float → Float}

lemma ofInt_of_fits {n : ℤ} (h : Fits n) : ofInt n = .ok (.int (Int64.ofInt n)) := by
  rw [ofInt, int64?_of_fits h]

lemma ofInt_of_not_fits {n : ℤ} (h : ¬ Fits n) : ofInt n = .error .overflow := by
  rw [ofInt, int64?_of_not_fits h]

/-- A 64-bit number combined with others from the left. -/
def folded (p : Primitive) (exact : ℤ → ℤ → ℤ) (rounded : Float → Float → Float) (a : Int64)
    (xs : List Int64) : Except EvalError Num :=
  fold p (combine exact rounded) (.int a) (xs.map .int)

lemma folded_cons (a x : Int64) (xs : List Int64) :
    folded p exact rounded a (x :: xs) =
      (ofInt (exact a.toInt x.toInt)).bind fun n =>
        fold p (combine exact rounded) n (xs.map .int) :=
  rfl

/-- The first two numbers are combined. -/
lemma folded_cons_of_fits {a x : Int64} (fits : Fits (exact a.toInt x.toInt)) (xs : List Int64) :
    folded p exact rounded a (x :: xs) =
      folded p exact rounded (Int64.ofInt (exact a.toInt x.toInt)) xs := by
  rw [folded_cons, ofInt_of_fits fits]
  rfl

lemma folded_cons_of_not_fits {a x : Int64} (wide : ¬ Fits (exact a.toInt x.toInt))
    (xs : List Int64) : folded p exact rounded a (x :: xs) = .error .overflow := by
  rw [folded_cons, ofInt_of_not_fits wide]
  rfl

variable (p rounded) in
/-- **The result is exact** if everything on the way to it has 64 bits. -/
theorem folded_exact {a : Int64} {xs : List Int64}
    (fits : ∀ k, Fits (((xs.map Int64.toInt).take k).foldl exact a.toInt)) :
    ∃ n : Int64, n.toInt = (xs.map Int64.toInt).foldl exact a.toInt ∧
      folded p exact rounded a xs = .ok (.int n) := by
  induction xs generalizing a with
  | nil => exact ⟨a, rfl, rfl⟩
  | cons x xs ih =>
      have first : Fits (exact a.toInt x.toInt) := by simpa using fits 1
      have value := toInt_ofInt first
      obtain ⟨n, exactly, result⟩ := @ih (Int64.ofInt (exact a.toInt x.toInt)) fun k => by
        rw [value]
        exact fits (k + 1)
      refine ⟨n, ?_, ?_⟩
      · rw [exactly, value, List.map_cons, List.foldl_cons]
      · rw [folded_cons_of_fits first, result]

/-- It is refused if anything on the way has not. -/
theorem folded_overflow {a : Int64} {xs : List Int64} {k : ℕ}
    (wide : ¬ Fits (((xs.map Int64.toInt).take k).foldl exact a.toInt)) :
    folded p exact rounded a xs = .error .overflow := by
  induction xs generalizing a k with
  | nil => exact absurd (fits_toInt a) (by simpa using wide)
  | cons x xs ih =>
      cases k with
      | zero => exact absurd (fits_toInt a) wide
      | succ k =>
          by_cases first : Fits (exact a.toInt x.toInt)
          · rw [folded_cons_of_fits first]
            refine @ih _ k ?_
            rw [toInt_ofInt first]
            exact wide
          · exact folded_cons_of_not_fits first xs

end Num

/-- With some integers every call returns the exact value, if the values of all first few of them
have 64 bits, and is refused otherwise. -/
def Primitive.Exact (p : Primitive) (args : List Value) (value : List ℤ → ℤ) (zs : List ℤ) : Prop :=
  ((∀ k, Fits (value (zs.take k))) →
    ∃ n : Int64, n.toInt = value zs ∧ p.Returns args (.ok (.int n))) ∧
  ((∃ k, ¬ Fits (value (zs.take k))) → p.Returns args (.error .overflow))

/-- A primitive that combines integers from the left is exact. -/
lemma Primitive.exact_of_folded {p : Primitive} {args : List Value} {exact : ℤ → ℤ → ℤ}
    {rounded : Float → Float → Float} {a : Int64} {xs : List Int64} {value : List ℤ → ℤ}
    (returns : p.Returns args ((Num.folded p exact rounded a xs).map Num.toValue))
    (left : ∀ zs, value zs = zs.foldl exact a.toInt) :
    p.Exact args value (xs.map Int64.toInt) := by
  constructor
  · intro fits
    obtain ⟨n, exactly, result⟩ :=
      Num.folded_exact p rounded fun k => left _ ▸ fits k
    rw [result] at returns
    exact ⟨n, by rw [exactly, left], returns⟩
  · rintro ⟨k, wide⟩
    rw [left] at wide
    rwa [Num.folded_overflow wide] at returns

/-! ### Sums and products -/

/-- The primitive combines its arguments from the left, from a number on that changes nothing. -/
structure Primitive.Folds (p : Primitive) (exact : ℤ → ℤ → ℤ) (rounded : Float → Float → Float)
    (neutral : Int64) : Prop where
  compute : ∀ args, p.compute args =
    (Num.fold p (Num.combine exact rounded) (.int neutral) args).map Num.toValue
  quiet : ∀ args, p.printed args = ""
  neutral : ∀ n : ℤ, exact neutral.toInt n = n

lemma folds_add : Primitive.add.Folds (· + ·) (· + ·) 0 := ⟨fun _ => rfl, fun _ => rfl, zero_add⟩

lemma folds_mul : Primitive.mul.Folds (· * ·) (· * ·) 1 := ⟨fun _ => rfl, fun _ => rfl, one_mul⟩

/-- What a primitive returns needs no state. -/
lemma Primitive.Returns.eq_lift {p : Primitive} {args : List Value}
    {result : Except EvalError Value} (h : p.Returns args result) (ev : Evaluate) :
    applyTo ev (.builtin (.primitive p)) args = Eval.lift result := by
  funext i
  rw [h ev i]
  cases result <;> rfl

/-- A primitive gives no value that nests too deep, so a second look at it changes nothing. -/
lemma applyTo_bounded (ev : Evaluate) (p : Primitive) (args : List Value) :
    (applyTo ev (.builtin (.primitive p)) args >>= fun v => Eval.lift v.bounded) =
      applyTo ev (.builtin (.primitive p)) args := by
  have twice (v : Value) :
      (Eval.lift v.bounded >>= fun w => Eval.lift w.bounded) = Eval.lift v.bounded := by
    rw [Value.bounded]
    split
    · rfl
    · next shallow =>
      show Eval.lift v.bounded = pure v
      rw [Value.bounded, if_neg shallow]
      rfl
  rw [applyTo, bind_assoc]
  simp only [twice]

namespace Primitive.Folds

variable {p : Primitive} {exact : ℤ → ℤ → ℤ} {rounded : Float → Float → Float} {neutral : Int64}
  (h : p.Folds exact rounded neutral)
include h

lemma returns (xs : List Int64) :
    p.Returns (xs.map .int) ((Num.folded p exact rounded neutral xs).map Num.toValue) :=
  returns_number (h.quiet _) (h.compute _)

/-- The first number can be taken as it is. -/
lemma folded_neutral (x : Int64) (xs : List Int64) :
    Num.folded p exact rounded neutral (x :: xs) = Num.folded p exact rounded x xs := by
  have value := h.neutral x.toInt
  rw [Num.folded_cons_of_fits (by rw [value]; exact fits_toInt x), value, Int64.ofInt_toInt]

/-- Calls with two numbers each, one after another, combine numbers from the left. -/
lemma foldItems_eq (ev : Evaluate) (x : Int64) (xs : List Int64) :
    foldItems (fun acc v => applyTo ev (.builtin (.primitive p)) [acc, v]) (.int x)
        (xs.map .int) = Eval.lift ((Num.folded p exact rounded x xs).map Num.toValue) := by
  induction xs generalizing x with
  | nil => rfl
  | cons y ys ih =>
      have pair := (h.returns [x, y]).eq_lift ev
      rw [h.folded_neutral] at pair
      rw [List.map_cons, foldItems]
      by_cases fits : Fits (exact x.toInt y.toInt)
      · rw [Num.folded_cons_of_fits fits] at pair ⊢
        rw [← ih]
        exact congrArg (· >>= _) pair
      · rw [Num.folded_cons_of_not_fits fits] at pair ⊢
        exact congrArg (· >>= _) pair

/-- **`reduce` agrees with a call.** -/
lemma reduce (ev : Evaluate) (x : Int64) (xs : List Int64) {v : Value}
    (items : v.seq? = some ((x :: xs).map .int)) :
    applyTo ev (.builtin (.higher .reduce)) [.builtin (.primitive p), v] =
      applyTo ev (.builtin (.primitive p)) ((x :: xs).map .int) := by
  have call := (h.returns (x :: xs)).eq_lift ev
  have looked := applyTo_bounded ev p ((x :: xs).map .int)
  rw [call, h.folded_neutral] at looked
  rw [call, h.folded_neutral, ← looked, ← h.foldItems_eq ev, applyTo]
  split
  · next none => simp [items] at none
  · next first rest found =>
    rw [items] at found
    cases found
    rw [Call.foldItems_attach fun acc v => applyTo ev (.builtin (.primitive p)) [acc, v]]
  · next none => simp [items] at none

end Primitive.Folds

/-- **`apply` agrees with a call**, of any primitive. -/
lemma apply_primitive (ev : Evaluate) (p : Primitive) {args : List Value} {v : Value}
    (items : v.seq? = some args) :
    applyTo ev (.builtin (.higher .apply)) [.builtin (.primitive p), v] =
      applyTo ev (.builtin (.primitive p)) args := by
  rw [← applyTo_bounded]
  conv_lhs => rw [applyTo]
  split
  · next found =>
    cases items.symm.trans found
    rfl
  · next none => exact absurd (items.symm.trans none) (by simp)

/-! ### Comparisons -/

/-- **A comparison of integers is exact**: it holds just if every two neighbours are in order. -/
lemma Primitive.returns_compare {p : Primitive} {R : ℤ → ℤ → Prop} [DecidableRel R]
    {rounded : Float → Float → Bool} (quiet : ∀ args, p.printed args = "")
    (computed : ∀ args, p.compute args = compareChain p (fun a b => decide (R a b)) rounded args)
    (x : Int64) (xs : List Int64) :
    p.Returns ((x :: xs).map .int)
      (.ok (.bool (decide (((x :: xs).map Int64.toInt).IsChain R)))) := by
  have nums : numbers p ((x :: xs).map .int) = .ok ((x :: xs).map .int) := by
    generalize x :: xs = ys
    rw [numbers]
    induction ys with
    | nil => rfl
    | cons y ys ih =>
        rw [List.map_cons, List.mapM_cons, ih]
        rfl
  have order : neighbours (Num.ordered (fun a b => decide (R a b)) rounded) ((x :: xs).map .int) =
      decide (((x :: xs).map Int64.toInt).IsChain R) := by
    rw [Bool.eq_iff_iff, neighbours_iff, decide_eq_true_iff, List.isChain_map, List.isChain_map]
    simp only [Num.ordered, decide_eq_true_iff]
  refine returns_of_compute (quiet _) ?_ fun v returned => ?_
  · rw [computed, compareChain, nums, ← order]
    rfl
  · cases returned
    exact Nat.zero_le depthLimit

/-- **Integers never wrap, and it does not matter how they are combined.** A sum is exact if all
sums of the first few arguments have 64 bits, and refused otherwise, and so are a product and a
difference; the difference of a single argument is taken from zero. For one argument or more,
`reduce` and `apply` with a list or a vector of them agree with a call, for sums and for products.
And a comparison holds just if every two neighbours are in this order as integers. -/
theorem integer_arithmetic :
    (∀ xs : List Int64, Primitive.add.Exact (xs.map .int) List.sum (xs.map Int64.toInt)) ∧
    (∀ xs : List Int64, Primitive.mul.Exact (xs.map .int) List.prod (xs.map Int64.toInt)) ∧
    (∀ x : Int64, Primitive.sub.Exact [.int x] (fun zs => zs.foldl (· - ·) 0) [x.toInt]) ∧
    (∀ (x y : Int64) (ys : List Int64), Primitive.sub.Exact ((x :: y :: ys).map .int)
      (fun zs => zs.foldl (· - ·) x.toInt) ((y :: ys).map Int64.toInt)) ∧
    (∀ xs : List Int64, xs ≠ [] →
      (∀ v ∈ [Value.list (xs.map .int), Value.vector (xs.map .int)],
        ∀ p ∈ [Primitive.add, Primitive.mul], ∀ ev,
          applyTo ev (.builtin (.higher .reduce)) [.builtin (.primitive p), v] =
            applyTo ev (.builtin (.primitive p)) (xs.map .int) ∧
          applyTo ev (.builtin (.higher .apply)) [.builtin (.primitive p), v] =
            applyTo ev (.builtin (.primitive p)) (xs.map .int)) ∧
      Primitive.lt.Returns (xs.map .int)
        (.ok (.bool (decide ((xs.map Int64.toInt).IsChain (· < ·))))) ∧
      Primitive.gt.Returns (xs.map .int)
        (.ok (.bool (decide ((xs.map Int64.toInt).IsChain (· > ·))))) ∧
      Primitive.le.Returns (xs.map .int)
        (.ok (.bool (decide ((xs.map Int64.toInt).IsChain (· ≤ ·))))) ∧
      Primitive.ge.Returns (xs.map .int)
        (.ok (.bool (decide ((xs.map Int64.toInt).IsChain (· ≥ ·)))))) := by
  refine ⟨fun xs => ?_, fun xs => ?_, fun x => ?_, fun x y ys => ?_, fun xs nonempty => ?_⟩
  · exact Primitive.exact_of_folded (folds_add.returns xs) fun zs => List.sum_eq_foldl
  · exact Primitive.exact_of_folded (folds_mul.returns xs) fun zs => List.prod_eq_foldl
  · have returns : Primitive.sub.Returns [.int x]
        ((Num.folded .sub (· - ·) (· - ·) 0 [x]).map Num.toValue) :=
      Primitive.returns_number rfl rfl
    exact Primitive.exact_of_folded returns fun _ => rfl
  · have returns : Primitive.sub.Returns ((x :: y :: ys).map .int)
        ((Num.folded .sub (· - ·) (· - ·) x (y :: ys)).map Num.toValue) :=
      Primitive.returns_number rfl rfl
    exact Primitive.exact_of_folded returns fun _ => rfl
  · obtain ⟨x, xs, rfl⟩ := List.exists_cons_of_ne_nil nonempty
    refine ⟨fun v shape p op ev => ?_, ?_, ?_, ?_, ?_⟩
    · have items : v.seq? = some ((x :: xs).map .int) := by
        simp only [List.mem_cons, List.not_mem_nil, or_false] at shape
        rcases shape with rfl | rfl <;> rfl
      refine ⟨?_, apply_primitive ev p items⟩
      simp only [List.mem_cons, List.not_mem_nil, or_false] at op
      rcases op with rfl | rfl
      · exact folds_add.reduce ev x xs items
      · exact folds_mul.reduce ev x xs items
    · exact Primitive.returns_compare (fun _ => rfl) (fun _ => rfl) x xs
    · exact Primitive.returns_compare (fun _ => rfl) (fun _ => rfl) x xs
    · exact Primitive.returns_compare (fun _ => rfl) (fun _ => rfl) x xs
    · exact Primitive.returns_compare (fun _ => rfl) (fun _ => rfl) x xs

/-- The greatest 64-bit number, one and minus one have a sum of 64 bits, but it is refused in this
order, also by `reduce`. Two integers compare as they are that are the same number as floats. -/
theorem integer_arithmetic_bounds :
    let xs := [Int64.maxValue, 1, -1]
    xs ≠ [] ∧ Fits (xs.map Int64.toInt).sum ∧ ¬ Fits ((xs.map Int64.toInt).take 2).sum ∧
      Primitive.add.Returns (xs.map .int) (.error .overflow) ∧
      (∀ ev, applyTo ev (.builtin (.higher .reduce))
          [.builtin (.primitive .add), .vector (xs.map .int)] =
        applyTo ev (.builtin (.primitive .add)) (xs.map .int)) ∧
      Float.ofInt 9007199254740992 = Float.ofInt 9007199254740993 ∧
      Primitive.lt.Returns ([9007199254740992, 9007199254740993].map .int) (.ok (.bool true)) := by
  intro xs
  have nonempty : xs ≠ [] := by decide
  have wide : ¬ Fits ((xs.map Int64.toInt).take 2).sum := by decide
  obtain ⟨sums, -, -, -, further⟩ := integer_arithmetic
  obtain ⟨ways, -⟩ := further xs nonempty
  have agree (ev : Evaluate) := ways (.vector (xs.map .int)) (by simp) .add (by simp) ev
  obtain ⟨-, less, -⟩ := further [9007199254740992, 9007199254740993] (by decide)
  exact ⟨nonempty, by decide, wide, (sums xs).2 ⟨2, wide⟩, fun ev => (agree ev).1,
    by decide +kernel, less⟩

end HostedRepl.Lisp
