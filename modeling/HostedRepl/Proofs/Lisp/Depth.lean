/-
The nesting of values, item by item and variable by variable.

* `Value.deepest_le_iff`, `Value.depth_list_le_iff`,
  `Value.depth_vector_le_iff`, `Value.depth_lt_of_item`: a sequence is one
  deeper than its deepest item.
* `Scope.depth_le_iff`: the depth of a scope is that of its deepest variable.
-/
import Mathlib.Tactic
import HostedRepl.Lisp.Value

namespace HostedRepl.Lisp

namespace Value

lemma deepest_le_iff {least n : ℕ} {vs : List Value} :
    deepest least vs ≤ n ↔ least ≤ n ∧ ∀ v ∈ vs, v.depth ≤ n := by
  induction vs generalizing least with
  | nil => simp [deepest]
  | cons v vs ih => simp [deepest, ih, and_assoc]

lemma depth_list_le_iff {items : List Value} {n : ℕ} :
    (Value.list items).depth ≤ n + 1 ↔ ∀ v ∈ items, v.depth ≤ n := by
  rw [depth, Nat.add_comm, Nat.add_le_add_iff_right, deepest_le_iff]
  exact and_iff_right n.zero_le

lemma depth_vector_le_iff {items : List Value} {n : ℕ} :
    (Value.vector items).depth ≤ n + 1 ↔ ∀ v ∈ items, v.depth ≤ n := by
  rw [depth, Nat.add_comm, Nat.add_le_add_iff_right, deepest_le_iff]
  exact and_iff_right n.zero_le

lemma depth_list_pos (items : List Value) : 0 < (Value.list items).depth := by
  rw [depth]
  omega

lemma depth_vector_pos (items : List Value) : 0 < (Value.vector items).depth := by
  rw [depth]
  omega

/-- An item of a sequence is less deep than the sequence. -/
lemma depth_lt_of_item {v w : Value} {items : List Value} (seq : v.seq? = some items)
    (mem : w ∈ items) : w.depth < v.depth := by
  have pred {n : ℕ} (pos : 0 < n) : n ≤ n - 1 + 1 := by omega
  cases v with
  | list items =>
      cases seq
      have pos := depth_list_pos items
      exact Nat.lt_of_le_pred pos (depth_list_le_iff.mp (pred pos) w mem)
  | vector items =>
      cases seq
      have pos := depth_vector_pos items
      exact Nat.lt_of_le_pred pos (depth_vector_le_iff.mp (pred pos) w mem)
  | nil =>
      cases seq
      cases mem
  | _ => cases seq

end Value

lemma Scope.depth_le_iff {scope : Scope} {n : ℕ} :
    scope.depth ≤ n ↔ ∀ x ∈ scope, x.2.depth ≤ n := by
  have from' (least : ℕ) : scope.foldl (fun deepest x => max deepest x.2.depth) least ≤ n ↔
      least ≤ n ∧ ∀ x ∈ scope, x.2.depth ≤ n := by
    induction scope generalizing least with
    | nil => simp
    | cons x scope ih => simp [ih, and_assoc]
  rw [Scope.depth, from']
  exact and_iff_right n.zero_le

end HostedRepl.Lisp
