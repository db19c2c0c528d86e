/-
How a written double looks.

* `IsDecimalText`: a digit, then digits, points, exponent marks and minus
  signs, with something other than a digit among them.
* `positionalText_isDecimalText`, `exponentText_isDecimalText`: both ways to
  lay out digits give such a text.
* `magnitude_isDecimalText`, `render_finite`: so does a layout that marks whole
  numbers, up to a minus sign in front of it.
-/
import Mathlib.Tactic
import HostedRepl.Decimal.Layout
import HostedRepl.Proofs.Decimal.Integer

namespace HostedRepl.Decimal

/-- A character of a written double. -/
def IsMark (c : Char) : Prop := c.isDigit = true ∨ c = '.' ∨ c = 'e' ∨ c = '-'

/-- A digit, then characters of written doubles, not all of them digits. -/
structure IsDecimalText (cs : List Char) : Prop where
  led : (cs.head?.map Char.isDigit).getD false = true
  marks : ∀ c ∈ cs, IsMark c
  marked : cs.all Char.isDigit = false

/-- Digits, a mark, and more characters. -/
lemma isDecimalText_append {ds rest : List Char} {c : Char} (nonempty : ds ≠ [])
    (digits : ∀ d ∈ ds, d.isDigit = true) (mark : c = '.' ∨ c = 'e')
    (marks : ∀ c ∈ rest, IsMark c) : IsDecimalText (ds ++ c :: rest) := by
  obtain ⟨d, ds, rfl⟩ := List.exists_cons_of_ne_nil nonempty
  refine ⟨by simpa using digits d (by simp), fun c' hc' => ?_, ?_⟩
  · simp only [List.mem_append, List.mem_cons] at hc'
    rcases hc' with hc' | rfl | hc'
    · exact .inl (digits c' (List.mem_cons.mpr hc'))
    · exact .inr (mark.imp id .inl)
    · exact marks c' hc'
  · rcases mark with rfl | rfl <;> simp [Char.isDigit]

lemma isDigit_of_mem_zeros {n : ℕ} {c : Char} (h : c ∈ (zeros n).toList) : c.isDigit = true := by
  rw [zeros, String.toList_ofList] at h
  obtain rfl := List.eq_of_mem_replicate h
  rfl

lemma isDigit_of_mem_toString {n : ℕ} {c : Char} (h : c ∈ (toString n).toList) :
    c.isDigit = true := by
  rw [Nat.toString_eq_repr, Nat.toList_repr] at h
  exact isDigit_of_mem_toDigits h

section

variable {ds : List Char} (nonempty : ds ≠ []) (digits : ∀ d ∈ ds, d.isDigit = true)
include nonempty digits

lemma positionalText_isDecimalText {whole : String} {more : List Char} (e : ℤ)
    (point : whole.toList = '.' :: more) (marks : ∀ c ∈ more, IsMark c) :
    IsDecimalText (positionalText whole ds e).toList := by
  rw [positionalText]
  split_ifs with scaled inside
  · rw [String.toList_append, String.toList_append, String.toList_ofList, point]
    refine isDecimalText_append (by simp [nonempty]) (fun d hd => ?_) (.inl rfl) marks
    exact (List.mem_append.mp hd).elim (digits d) isDigit_of_mem_zeros
  · have taken : ds.take ((ds.length : ℤ) + e).toNat ≠ [] := by
      simp [List.take_eq_nil_iff, nonempty]
      omega
    simp only [String.toList_append, String.toList_ofList, List.append_assoc]
    exact isDecimalText_append taken (fun d hd => digits d (List.mem_of_mem_take hd)) (.inl rfl)
      fun c hc => .inl (digits c (List.mem_of_mem_drop hc))
  · simp only [String.toList_append, String.toList_ofList, List.append_assoc]
    change IsDecimalText (['0'] ++ '.' :: ((zeros (-(ds.length + e)).toNat).toList ++ ds))
    refine isDecimalText_append (by simp) (by simp) (.inl rfl) fun c hc => ?_
    exact .inl ((List.mem_append.mp hc).elim isDigit_of_mem_zeros (digits c))

lemma exponentText_isDecimalText (e : ℤ) : IsDecimalText (exponentText "" ds e).toList := by
  have front : ds.take 1 ≠ [] := by simp [List.take_eq_nil_iff, nonempty]
  have frontDigits : ∀ d ∈ ds.take 1, d.isDigit = true :=
    fun d hd => digits d (List.mem_of_mem_take hd)
  have exponent (k : ℤ) :
      ∀ c ∈ (if k < 0 then "-" else "").toList ++ (toString k.natAbs).toList, IsMark c := by
    intro c hc
    rcases List.mem_append.mp hc with hc | hc
    · split_ifs at hc
      · exact .inr (.inr (.inr (by simpa using hc)))
      · simp at hc
    · exact .inl (isDigit_of_mem_toString hc)
  rw [exponentText]
  by_cases short : ds.length ≤ 1
  · simp only [if_pos short, String.toList_append, String.toList_ofList, List.append_assoc]
    exact isDecimalText_append front frontDigits (.inr rfl) (exponent _)
  · simp only [if_neg short, String.toList_append, String.toList_ofList, List.append_assoc]
    change IsDecimalText (ds.take 1 ++ '.' :: (ds.drop 1 ++ 'e' :: _))
    refine isDecimalText_append front frontDigits (.inl rfl) fun c hc => ?_
    rcases List.mem_append.mp hc with hc | hc
    · exact .inl (digits c (List.mem_of_mem_drop hc))
    · rcases List.mem_cons.mp hc with rfl | hc
      · exact .inr (.inr (.inl rfl))
      · exact exponent _ c hc

end

variable {l : Layout} {more : List Char}

/-- Whole numbers are marked, and exponents have no sign that is not needed. -/
lemma magnitude_isDecimalText (point : l.whole.toList = '.' :: more) (marks : ∀ c ∈ more, IsMark c)
    (plus : l.plus = "") (m : ℕ) (q : ℤ) : IsDecimalText (l.magnitude m q).toList := by
  rw [Layout.magnitude]
  split_ifs with zero
  · rw [String.toList_append, point]
    exact isDecimalText_append (by simp) (by simp) (.inl rfl) marks
  · have nonempty : Nat.toDigits 10 (shortest l.tiesUp m q).1 ≠ [] := by simp
    have digits : ∀ d ∈ Nat.toDigits 10 (shortest l.tiesUp m q).1, d.isDigit = true :=
      fun d => isDigit_of_mem_toDigits
    dsimp only
    split
    · exact positionalText_isDecimalText nonempty digits _ point marks
    · split_ifs
      · exact positionalText_isDecimalText nonempty digits _ point marks
      · rw [plus]
        exact exponentText_isDecimalText nonempty digits _

/-- **A finite double is written as a decimal text**, after a minus sign if it is negative. -/
theorem render_finite {x : Float} {negative : Bool} {m : ℕ} {q : ℤ}
    (finite : Double.ofFloat x = .finite negative m q) (point : l.whole.toList = '.' :: more)
    (marks : ∀ c ∈ more, IsMark c) (plus : l.plus = "") :
    ∃ cs, IsDecimalText cs ∧ (l.render x).toList = (if negative then ['-'] else []) ++ cs := by
  refine ⟨(l.magnitude m q).toList, magnitude_isDecimalText point marks plus m q, ?_⟩
  rw [Layout.render, finite]
  cases negative <;> simp

end HostedRepl.Decimal
