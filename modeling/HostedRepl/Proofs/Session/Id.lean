/-
The canonical text of a session id.

* `SessionId.foldlM_digits`: the digits of an id have the value of its bits.
* `SessionId.parse?_render`: **the id of a canonical text** is the id that it
  was made from.
* `SessionId.render_injective`: different ids have different texts.
-/
import Mathlib.Tactic
import HostedRepl.Session.Id

namespace HostedRepl.SessionId

/-! ### Digits -/

/-- The first `k` of `m` hexadecimal digits of a number are those of the number without the
others. -/
lemma foldlM_digits (n m k : Nat) (h : n < 16 ^ m) (le : k ≤ m) :
    ((List.range k).map fun i => Text.hexDigit (n / 16 ^ (m - 1 - i) % 16)).foldlM
      (fun n c => (Text.hexValue? c).map (16 * n + ·)) 0 = some (n / 16 ^ (m - k)) := by
  induction k with
  | zero =>
      rw [Nat.sub_zero, Nat.div_eq_of_lt h]
      rfl
  | succ k ih =>
      have before := ih (Nat.le_of_succ_le le)
      have shift : n / 16 ^ (m - k) = n / 16 ^ (m - (k + 1)) / 16 := by
        rw [Nat.div_div_eq_div_mul, ← pow_succ]
        congr 2
        omega
      have last : m - 1 - k = m - (k + 1) := by omega
      have digit : n / 16 ^ (m - (k + 1)) % 16 < 16 := Nat.mod_lt _ (by decide)
      rw [List.range_succ, List.map_append, List.foldlM_append, before, shift]
      simp only [Option.bind_eq_bind, Option.bind_some, List.map_cons, List.map_nil,
        List.foldlM_cons, List.foldlM_nil, last, Text.hexValue?_hexDigit _ digit, Option.map_some]
      congr 1
      exact Nat.div_add_mod _ 16

lemma length_digits (id : SessionId) : id.digits.length = 32 := by simp [digits]

lemma ofDigits?_digits (id : SessionId) : ofDigits? id.digits = some id := by
  have value := foldlM_digits id.bits.toNat 32 32 id.bits.isLt (le_refl _)
  rw [ofDigits?, if_pos id.length_digits]
  simp only [digits, Nat.pow_eq, value]
  simp

/-! ### The hyphenated form -/

/-- The digits in groups of 8, 4, 4, 4 and 12. -/
lemma groups (ds : List Char) :
    ds.take 8 ++ (ds.drop 8).take 4 ++ (ds.drop 12).take 4 ++ (ds.drop 16).take 4 ++
      ds.drop 20 = ds := by
  have split (n : Nat) : (ds.drop n).take 4 ++ ds.drop (n + 4) = ds.drop n := by
    rw [← List.drop_drop]
    exact List.take_append_drop 4 _
  rw [List.append_assoc, split 16, List.append_assoc, split 12, List.append_assoc, split 8,
    List.take_append_drop]

/-- Without its hyphens the hyphenated form has the digits again. -/
lemma hyphenate_parts {ds : List Char} (h : ds.length = 32) :
    let cs := hyphenate ds
    cs.length = 36 ∧ cs.take 8 ++ (cs.drop 9).take 4 ++ (cs.drop 14).take 4 ++
      (cs.drop 19).take 4 ++ cs.drop 24 = ds := by
  refine ⟨by simp [hyphenate, h], ?_⟩
  conv_rhs => rw [← groups ds]
  simp [hyphenate, List.drop_append, List.drop_take, h]

lemma toList_render (id : SessionId) : id.render.toList = hyphenate id.digits := by
  rw [render, String.toList_ofList]

/-- **The id of a canonical text** is the one that it was made from. -/
theorem parse?_render (id : SessionId) : parse? id.render = some id := by
  obtain ⟨length, digits⟩ := hyphenate_parts id.length_digits
  have read : ofHyphenated? (hyphenate id.digits) = some id := by
    rw [ofHyphenated?, digits, if_pos rfl, ofDigits?_digits]
  simp only [parse?, toList_render, length, read]

/-- **Different ids have different texts.** -/
theorem render_injective : Function.Injective render := fun a b h => by
  have same := congrArg parse? h
  rw [parse?_render, parse?_render] at same
  exact Option.some.inj same

end HostedRepl.SessionId
