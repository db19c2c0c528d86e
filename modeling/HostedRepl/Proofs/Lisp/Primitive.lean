/-
Calls of primitives.

* `Primitive.Returns`: what every call of a primitive with some arguments gives.
  Nothing else depends on the call, and it changes nothing.
* `returns_bounded`: of a primitive that prints nothing this is what it
  computes, unless that nests too deep; `returns_number`, if it is a number.
* `neighbours_iff`: what it means that every two neighbours are related.
-/
import HostedRepl.Lisp.Apply
import HostedRepl.Proofs.Decimal.Integer
import HostedRepl.Proofs.Lisp.Depth

namespace HostedRepl.Lisp

/-- Every call with these arguments has this result and leaves the state as it is. -/
def Primitive.Returns (p : Primitive) (args : List Value) (result : Except EvalError Value) :
    Prop :=
  ∀ ev i, applyTo ev (.builtin (.primitive p)) args i =
    match result with
    | .ok v => .ok v i
    | .error e => .error e i

/-- A primitive that prints nothing returns what it computes, unless that nests too deep. -/
lemma Primitive.returns_bounded {p : Primitive} {args : List Value} (quiet : p.printed args = "") :
    p.Returns args (p.compute args >>= Value.bounded) := by
  intro ev i
  have unprinted : i.print "" = i := by
    rw [Interp.print, String.append_empty]
  rw [applyTo, run, quiet]
  cases p.compute args with
  | error e => rfl
  | ok v =>
      change (Eval.lift v.bounded) (i.print "") = _
      have looked : (.ok v >>= Value.bounded) = v.bounded := rfl
      rw [unprinted, looked]
      cases v.bounded <;> rfl

/-- A primitive that prints nothing returns what it computes, if that does not nest too deep. -/
lemma Primitive.returns_of_compute {p : Primitive} {args : List Value}
    {result : Except EvalError Value} (quiet : p.printed args = "")
    (computed : p.compute args = result)
    (shallow : ∀ v, result = .ok v → v.depth ≤ depthLimit) : p.Returns args result := by
  have returns := returns_bounded quiet
  rw [computed] at returns
  cases result with
  | error e => exact returns
  | ok v =>
      change p.Returns args v.bounded at returns
      rwa [Value.bounded, if_neg (Nat.not_lt.mpr (shallow v rfl))] at returns

/-- Calls that compute and print the same return the same. -/
lemma Primitive.returns_congr {p : Primitive} {args args' : List Value}
    (computed : p.compute args = p.compute args') (printed : p.printed args = p.printed args')
    (result : Except EvalError Value) : p.Returns args result ↔ p.Returns args' result := by
  have same (ev : Evaluate) : applyTo ev (.builtin (.primitive p)) args =
      applyTo ev (.builtin (.primitive p)) args' := by
    rw [applyTo, applyTo, run, run, computed, printed]
  simp only [Returns, same]

/-- A number is no nested value. -/
lemma Num.depth_toValue (n : Num) : n.toValue.depth = 0 := by
  cases n <;> rfl

/-- A primitive that computes a number returns it. -/
lemma Primitive.returns_number {p : Primitive} {args : List Value} {result : Except EvalError Num}
    (quiet : p.printed args = "") (computed : p.compute args = result.map Num.toValue) :
    p.Returns args (result.map Num.toValue) := by
  refine returns_of_compute quiet computed fun v returned => ?_
  cases result with
  | error e => cases returned
  | ok n =>
      cases returned
      rw [Num.depth_toValue]
      exact Nat.zero_le depthLimit

/-- Every two neighbours are related just if the list is a chain. -/
lemma neighbours_iff {α : Type} {related : α → α → Bool} {xs : List α} :
    neighbours related xs = true ↔ xs.IsChain fun a b => related a b = true := by
  fun_induction neighbours related xs with
  | case1 a b rest holds ih => rw [ih, List.isChain_cons_cons, and_iff_right holds]
  | case2 a b rest fails =>
      rw [List.isChain_cons_cons]
      exact iff_of_false Bool.false_ne_true fun chain => fails chain.1
  | case3 xs short =>
      refine iff_of_true rfl ?_
      rcases xs with _ | ⟨a, _ | ⟨b, rest⟩⟩
      · exact .nil
      · exact .singleton a
      · exact (short a b rest rfl).elim

end HostedRepl.Lisp
