/-
Reading a form of a value.

Reading a form gives the value if the form is within the limits of a frame,
and one of the two limit errors if it is not. Each step of a reading has this
shape, so it is stated once, as `Settles`, and goes through a sequence of
steps by `Settles.bind`.

* `Settles`: the outcome of reading a form of something.
* `settles_integer`, `settles_byteString`: forms without parts.
* `settles_items`, `settles_entries`: the loops over the parts of a list and
  of a dictionary.
* `Written.settles`: the outcome of reading a form of a value, by induction
  over the form.
-/
import Mathlib.Tactic
import HostedRepl.Proofs.Wire.Grammar

namespace HostedRepl.Wire

open Bytes Decoder

/-- The error tells that a frame is beyond the limits. -/
def DecodeError.IsLimit (e : DecodeError) : Prop := e = .tooDeep ∨ e = .tooLarge

/-- A reading gives `x` and leaves `after` if the form read `fits` the limits, and fails with a
limit error if it does not. -/
structure Settles {α : Type} (r : EStateM.Result DecodeError Input α) (fits : Prop) (x : α)
    (after : Input) : Prop where
  ok : fits → r = .ok x after
  limit : ¬fits → ∃ e i, r = .error e i ∧ e.IsLimit

namespace Settles

variable {α β : Type} {p q : Prop} {x : α} {y : β} {i j k : Input}

lemma pure : Settles ((Pure.pure x : Decoder α) i) True x i :=
  ⟨fun _ => rfl, fun h => absurd trivial h⟩

lemma tooLarge (h : ¬p) : Settles ((throw .tooLarge : Decoder α) i) p x j :=
  ⟨fun hp => absurd hp h, fun _ => ⟨.tooLarge, i, rfl, .inr rfl⟩⟩

lemma tooDeep (h : ¬p) : Settles ((throw .tooDeep : Decoder α) i) p x j :=
  ⟨fun hp => absurd hp h, fun _ => ⟨.tooDeep, i, rfl, .inl rfl⟩⟩

lemma map {m : Decoder α} (f : α → β) (hm : Settles (m i) p x j) :
    Settles ((f <$> m) i) p (f x) j where
  ok h := by
    simp only [Functor.map, EStateM.map, hm.ok h]
  limit h := by
    obtain ⟨e, i', failed, he⟩ := hm.limit h
    exact ⟨e, i', by simp only [Functor.map, EStateM.map, failed], he⟩

/-- A reading that looks at its input first. -/
lemma get_bind {f : Input → Decoder β} {r : Prop} (h : Settles (f i i) r y k) :
    Settles ((get >>= f) i) r y k := h

/-- The condition may be written in another way. -/
lemma congr {r : EStateM.Result DecodeError Input α} (h : Settles r p x i) (hpq : p ↔ q) :
    Settles r q x i :=
  ⟨fun hq => h.ok (hpq.mpr hq), fun hq => h.limit (fun hp => hq (hpq.mp hp))⟩

/-- Two readings in a row settle as one if the first gives what the second goes on from. -/
lemma bind {m : Decoder α} {f : α → Decoder β} (hm : Settles (m i) p x j)
    (hf : p → Settles (f x j) q y k) : Settles ((m >>= f) i) (p ∧ q) y k where
  ok h := by
    have first : m i = .ok x j := hm.ok h.1
    have second : f x j = .ok y k := (hf h.1).ok h.2
    simp only [Bind.bind, EStateM.bind, first, second]
  limit h := by
    by_cases hp : p
    · have first : m i = .ok x j := hm.ok hp
      obtain ⟨e, i', second, he⟩ := (hf hp).limit fun hq => h ⟨hp, hq⟩
      exact ⟨e, i', by simp only [Bind.bind, EStateM.bind, first, second], he⟩
    · obtain ⟨e, i', first, he⟩ := hm.limit hp
      exact ⟨e, i', by simp only [Bind.bind, EStateM.bind, first], he⟩

end Settles

/-! ### Bytes -/

lemma settles_next (a : Nat) (b : UInt8) (rest : Bytes) :
    Settles (next ⟨a, b :: rest⟩) (1 ≤ a) b ⟨a - 1, rest⟩ where
  ok h := by
    obtain ⟨n, rfl⟩ := Nat.exists_eq_add_of_le' h
    rfl
  limit h := by
    obtain rfl : a = 0 := by omega
    exact ⟨.tooLarge, _, rfl, .inr rfl⟩

/-- A reading that begins with one byte. -/
lemma Settles.next_bind {α : Type} {f : UInt8 → Decoder α} {q : Prop} {x : α} {a : Nat} {b : UInt8}
    {rest : Bytes} {after : Input} (h : 1 ≤ a → Settles (f b ⟨a - 1, rest⟩) q x after) :
    Settles ((next >>= f) ⟨a, b :: rest⟩) (1 ≤ a ∧ q) x after :=
  (settles_next a b rest).bind h

lemma splitBytes_append (bs acc rest : Bytes) :
    splitBytes bs.length acc (bs ++ rest) = some (bs.reverse ++ acc, rest) := by
  induction bs generalizing acc with
  | nil => rfl
  | cons b bs ih =>
      rw [List.length_cons, List.cons_append, splitBytes, ih]
      simp

lemma settles_take (a : Nat) (bs rest : Bytes) :
    Settles (take bs.length ⟨a, bs ++ rest⟩) (bs.length ≤ a) bs ⟨a - bs.length, rest⟩ where
  ok h := by
    rw [take, if_neg (by simpa using h)]
    simp [splitBytes_append]
  limit h := by
    rw [take, if_pos (by simpa using h)]
    exact ⟨.tooLarge, _, rfl, .inr rfl⟩

/-! ### Integers -/

lemma ne_101_of_isDigit {d : UInt8} (h : isDigit d = true) : d ≠ 101 := by
  rintro rfl
  exact absurd h (by decide)

/-- The digits of an integer are collected up to its `e`. -/
lemma settles_integerText {ds : Bytes} (digits : ∀ d ∈ ds, isDigit d = true) (room a : Nat)
    (acc : List Char) (rest : Bytes) (enough : ds.length ≤ room) :
    Settles (integerText room acc ⟨a, ds ++ 101 :: rest⟩) (ds.length + 1 ≤ a)
      (acc.reverse ++ ds.map toChar) ⟨a - (ds.length + 1), rest⟩ := by
  induction ds generalizing room a acc with
  | nil =>
      unfold integerText
      refine (Settles.next_bind (q := True) fun _ => ?_).congr (by simp)
      rw [if_pos rfl]
      simpa using Settles.pure
  | cons d ds ih =>
      obtain ⟨room, rfl⟩ := Nat.exists_eq_add_of_le' (Nat.le_trans (by simp) enough : 1 ≤ room)
      have digit := digits d (by simp)
      unfold integerText
      refine (Settles.next_bind (q := ds.length + 1 ≤ a - 1) fun _ => ?_).congr (by simp; omega)
      dsimp only
      rw [if_neg (ne_101_of_isDigit digit), if_pos (by simp [digit])]
      have step := ih (fun d hd => digits d (List.mem_cons_of_mem _ hd)) room (a - 1)
        (Char.ofNat d.toNat :: acc) (by simpa using enough)
      have left : a - 1 - (ds.length + 1) = a - ((d :: ds).length + 1) := by simp; omega
      rw [left] at step
      simpa [toChar] using step

/-- An integer is read from its written form. -/
lemma settles_integer {text : Bytes} {n : Int64} (h : IntegerText text n) (a : Nat) (rest : Bytes) :
    Settles (integer ⟨a, text ++ 101 :: rest⟩) (text.length + 1 ≤ a) (.int n)
      ⟨a - (text.length + 1), rest⟩ := by
  have collected : Settles (integerText 20 [] ⟨a, text ++ 101 :: rest⟩) (text.length + 1 ≤ a)
      (text.map toChar) ⟨a - (text.length + 1), rest⟩ := by
    obtain ⟨sign, ds, rfl, sign_cases, digits, enough⟩ := h.shape
    rcases sign_cases with rfl | rfl
    · exact settles_integerText digits 20 a [] rest (by simpa using enough)
    · -- the minus sign takes one of the 20 characters
      unfold integerText
      refine (Settles.next_bind (q := ds.length + 1 ≤ a - 1) fun _ => ?_).congr (by simp; omega)
      have step := settles_integerText digits 19 (a - 1) ['-'] rest (by simp at enough; omega)
      have left : a - 1 - (ds.length + 1) = a - (([45] ++ ds).length + 1) := by simp; omega
      rw [left] at step
      exact step
  obtain ⟨canonical, parsed⟩ := h.reads
  refine (collected.bind (q := True) fun _ => ?_).congr (by simp)
  simp only [canonical, if_true, parsed]
  exact Settles.pure

/-! ### Byte strings -/

lemma ne_58_of_isDigit {d : UInt8} (h : isDigit d = true) : d ≠ 58 := by
  rintro rfl
  exact absurd h (by decide)

/-- The digits of a length are read up to the colon. A length beyond the limit is noticed at one of
its digits. -/
lemma settles_length {ds : Bytes} (digits : ∀ d ∈ ds, isDigit d = true) {fuel a n : Nat}
    (rest : Bytes) (hfuel : a ≤ fuel) (hn : n ≤ frameLimit) :
    Settles (Decoder.length fuel n ⟨a, ds ++ 58 :: rest⟩)
      (ds.length + 1 ≤ a ∧ 10 ^ ds.length * n + digitsValue ds ≤ frameLimit)
      (10 ^ ds.length * n + digitsValue ds) ⟨a - (ds.length + 1), rest⟩ := by
  induction ds generalizing fuel a n with
  | nil =>
      cases fuel with
      | zero => exact Settles.tooLarge (by simp; omega)
      | succ fuel =>
          unfold Decoder.length
          have small : 10 ^ ([] : Bytes).length * n + digitsValue [] = n := by simp [digitsValue]
          rw [small]
          refine (Settles.next_bind (q := True) fun _ => ?_).congr (by simp [hn])
          rw [if_pos rfl]
          exact Settles.pure
  | cons d ds ih =>
      cases fuel with
      | zero => exact Settles.tooLarge (by simp; omega)
      | succ fuel =>
          have digit := digits d (by simp)
          have value : 10 ^ (d :: ds).length * n + digitsValue (d :: ds) =
              10 ^ ds.length * (10 * n + digitValue d) + digitsValue ds := by
            rw [digitsValue_cons, List.length_cons, pow_succ]
            ring
          have left : a - ((d :: ds).length + 1) = a - 1 - (ds.length + 1) := by simp; omega
          unfold Decoder.length
          rw [value, left]
          refine (Settles.next_bind (q := ds.length + 1 ≤ a - 1 ∧
            10 ^ ds.length * (10 * n + digitValue d) + digitsValue ds ≤ frameLimit)
            fun _ => ?_).congr (by simp; omega)
          dsimp only
          rw [if_neg (ne_58_of_isDigit digit), if_pos digit]
          by_cases beyond : frameLimit < 10 * n + digitValue d
          · -- the digits to come only make the length greater
            rw [if_pos beyond]
            refine Settles.tooLarge fun h => ?_
            have grows : 1 * (10 * n + digitValue d) ≤ 10 ^ ds.length * (10 * n + digitValue d) :=
              Nat.mul_le_mul_right _ (Nat.one_le_pow _ _ (by decide))
            omega
          · rw [if_neg beyond]
            exact ih (fun d hd => digits d (List.mem_cons_of_mem _ hd)) (by omega) (by omega)

/-- A byte string is read from its first digit on. -/
lemma settles_byteString {d : UInt8} {ds b : Bytes} (digits : ∀ c ∈ d :: ds, isDigit c = true)
    (value : digitsValue (d :: ds) = b.length) {a : Nat} (small : a ≤ frameLimit) (rest : Bytes) :
    Settles (byteString d ⟨a, ds ++ 58 :: b ++ rest⟩) (ds.length + 1 + b.length ≤ a) b
      ⟨a - (ds.length + 1 + b.length), rest⟩ := by
  have range := isDigit_iff.1 (digits d (by simp))
  have first : digitValue d ≤ frameLimit := by
    rw [digitValue, frameLimit]
    omega
  rw [digitsValue_cons] at value
  have read := settles_length (fun c hc => digits c (List.mem_cons_of_mem _ hc)) (b ++ rest)
    (le_refl a) first
  rw [value] at read
  unfold byteString
  refine Settles.get_bind ?_
  rw [List.append_assoc, List.cons_append]
  refine (read.bind (q := b.length ≤ a - (ds.length + 1)) fun _ => ?_).congr (by omega)
  have left : a - (ds.length + 1 + b.length) = a - (ds.length + 1) - b.length := by omega
  rw [left]
  exact settles_take _ b rest

/-! ### Values -/

/-- The first byte and the others of a form; no form is empty. -/
lemma Written.exists_cons {h : Nat} {b : Bytes} {v : Value} (w : Written h b v) :
    ∃ c tail, b = c :: tail := by
  cases w with
  | int _ => exact ⟨_, _, rfl⟩
  | bytes ne _ _ =>
      obtain ⟨d, ds, rfl⟩ := List.exists_cons_of_ne_nil ne
      exact ⟨d, _, rfl⟩
  | list _ => exact ⟨_, _, rfl⟩
  | dict _ _ => exact ⟨_, _, rfl⟩

/-- A form begins with another byte than the end of a list or dictionary. -/
lemma Written.head_ne {h : Nat} {c : UInt8} {tail : Bytes} {v : Value}
    (w : Written h (c :: tail) v) : c ≠ 101 := by
  generalize hb : c :: tail = b at w
  cases w with
  | int _ => simp_all
  | bytes ne digits _ =>
      obtain ⟨d, ds, rfl⟩ := List.exists_cons_of_ne_nil ne
      obtain ⟨rfl, -⟩ := List.cons.inj hb
      exact ne_101_of_isDigit (digits c (by simp))
  | list _ => simp_all
  | dict _ _ => simp_all

/-- What reading a form settles as, at any number of open levels and any allowance. -/
def ReadsBack (h : Nat) (b : Bytes) (v : Value) : Prop :=
  ∀ (levels a : Nat) (c : UInt8) (tail rest : Bytes), b = c :: tail → a ≤ frameLimit →
    Settles (value levels c ⟨a, tail ++ rest⟩) (h < levels ∧ tail.length ≤ a) v
      ⟨a - tail.length, rest⟩

/-- The items of a list are read up to its end. -/
lemma settles_items {parts : List Part} (forms : ∀ p ∈ parts, Written p.height p.bytes p.value)
    (reads : ∀ p ∈ parts, ReadsBack p.height p.bytes p.value) (levels : Nat) {fuel a : Nat}
    (acc : List Value) (rest : Bytes) (hfuel : a ≤ fuel) (small : a ≤ frameLimit) :
    Settles (items (value levels) fuel acc ⟨a, parts.flatMap Part.bytes ++ 101 :: rest⟩)
      ((∀ p ∈ parts, p.height < levels) ∧ (parts.flatMap Part.bytes).length + 1 ≤ a)
      ((parts.map Part.value).reverse ++ acc)
      ⟨a - ((parts.flatMap Part.bytes).length + 1), rest⟩ := by
  induction parts generalizing fuel a acc with
  | nil =>
      cases fuel with
      | zero => exact Settles.tooLarge (by simp; omega)
      | succ fuel =>
          unfold items
          refine (Settles.next_bind (q := True) fun _ => ?_).congr (by simp)
          rw [if_pos rfl]
          exact Settles.pure
  | cons p parts ih =>
      cases fuel with
      | zero => exact Settles.tooLarge (by simp; omega)
      | succ fuel =>
          have form := forms p (by simp)
          obtain ⟨c, tail, eq⟩ := form.exists_cons
          have length : ((p :: parts).flatMap Part.bytes).length =
              tail.length + 1 + (parts.flatMap Part.bytes).length := by simp [eq]; omega
          have left : a - (tail.length + 1 + (parts.flatMap Part.bytes).length + 1) =
              a - 1 - tail.length - ((parts.flatMap Part.bytes).length + 1) := by omega
          unfold items
          rw [length, left, List.flatMap_cons, eq, List.append_assoc, List.cons_append]
          have fits : (1 ≤ a ∧ (p.height < levels ∧ tail.length ≤ a - 1) ∧
              (∀ p ∈ parts, p.height < levels) ∧
              (parts.flatMap Part.bytes).length + 1 ≤ a - 1 - tail.length) ↔
              (∀ q ∈ p :: parts, q.height < levels) ∧
              tail.length + 1 + (parts.flatMap Part.bytes).length + 1 ≤ a := by
            rw [List.forall_mem_cons]
            constructor
            · rintro ⟨h1, ⟨h2, h3⟩, h4, h5⟩
              exact ⟨⟨h2, h4⟩, by omega⟩
            · rintro ⟨⟨h2, h4⟩, h5⟩
              exact ⟨by omega, ⟨h2, by omega⟩, h4, by omega⟩
          refine (Settles.next_bind fun _ => ?_).congr fits
          rw [if_neg (Written.head_ne (eq ▸ form))]
          refine (reads p (by simp) levels (a - 1) c tail _ eq (by omega)).bind fun _ => ?_
          have step := ih (fun p hp => forms p (List.mem_cons_of_mem _ hp))
            (fun p hp => reads p (List.mem_cons_of_mem _ hp)) (p.value :: acc)
            (a := a - 1 - tail.length) (by omega : a - 1 - tail.length ≤ fuel) (by omega)
          simpa using step

/-- The entries of a dictionary are read up to its end, each put in after those before it. -/
lemma settles_entries {slots : List Slot} (sized : ∀ s ∈ slots, s.Sized)
    (forms : ∀ s ∈ slots, Written s.part.height s.part.bytes s.part.value)
    (reads : ∀ s ∈ slots, ReadsBack s.part.height s.part.bytes s.part.value) (levels : Nat)
    {fuel a : Nat} (acc : Fields) (rest : Bytes) (hfuel : a ≤ fuel) (small : a ≤ frameLimit) :
    Settles (entries (value levels) fuel acc ⟨a, slots.flatMap Slot.bytes ++ 101 :: rest⟩)
      ((∀ s ∈ slots, s.part.height < levels) ∧ (slots.flatMap Slot.bytes).length + 1 ≤ a)
      ((slots.map Slot.entry).foldl (fun fields p => Fields.insert p.1 p.2 fields) acc)
      ⟨a - ((slots.flatMap Slot.bytes).length + 1), rest⟩ := by
  induction slots generalizing fuel a acc with
  | nil =>
      cases fuel with
      | zero => exact Settles.tooLarge (by simp; omega)
      | succ fuel =>
          unfold entries
          refine (Settles.next_bind (q := True) fun _ => ?_).congr (by simp)
          rw [if_pos rfl]
          exact Settles.pure
  | cons s slots ih =>
      cases fuel with
      | zero => exact Settles.tooLarge (by simp; omega)
      | succ fuel =>
          obtain ⟨ne, digits, keyed⟩ := sized s (by simp)
          obtain ⟨d, ds, hd⟩ := List.exists_cons_of_ne_nil ne
          obtain ⟨c, tail, hc⟩ := (forms s (by simp)).exists_cons
          rw [hd] at digits keyed
          have digit : isDigit d = true := digits d (by simp)
          -- after its first byte a slot has `n` bytes of the key, then the part
          set n := ds.length + 1 + s.key.length with hn
          set m := (slots.flatMap Slot.bytes).length with hm
          have spelled : (s :: slots).flatMap Slot.bytes ++ 101 :: rest =
              d :: (ds ++ 58 :: s.key ++
                c :: (tail ++ (slots.flatMap Slot.bytes ++ 101 :: rest))) := by
            simp [Slot.bytes, hd, hc]
          have length : ((s :: slots).flatMap Slot.bytes).length = n + tail.length + 2 + m := by
            simp [Slot.bytes, hd, hc, hn, hm]
            omega
          have left : a - (n + tail.length + 2 + m + 1) =
              a - 1 - n - 1 - tail.length - (m + 1) := by omega
          have fits : (1 ≤ a ∧ n ≤ a - 1 ∧ 1 ≤ a - 1 - n ∧
              (s.part.height < levels ∧ tail.length ≤ a - 1 - n - 1) ∧
              (∀ q ∈ slots, q.part.height < levels) ∧ m + 1 ≤ a - 1 - n - 1 - tail.length) ↔
              (∀ q ∈ s :: slots, q.part.height < levels) ∧ n + tail.length + 2 + m + 1 ≤ a := by
            rw [List.forall_mem_cons]
            constructor
            · rintro ⟨h1, h2, h3, ⟨h4, h5⟩, h6, h7⟩
              exact ⟨⟨h4, h6⟩, by omega⟩
            · rintro ⟨⟨h4, h6⟩, h7⟩
              exact ⟨by omega, by omega, by omega, ⟨h4, by omega⟩, h6, by omega⟩
          unfold entries
          rw [length, left, spelled]
          refine (Settles.next_bind fun _ => ?_).congr fits
          rw [if_neg (ne_101_of_isDigit digit), if_pos digit]
          refine (settles_byteString digits keyed (by omega) _).bind fun _ => ?_
          refine Settles.next_bind fun _ => ?_
          refine (reads s (by simp) levels _ c tail _ hc (by omega)).bind fun _ => ?_
          exact ih (fun q hq => sized q (List.mem_cons_of_mem _ hq))
            (fun q hq => forms q (List.mem_cons_of_mem _ hq))
            (fun q hq => reads q (List.mem_cons_of_mem _ hq)) _ (by omega) (by omega)

/-- **Reading a form**: it gives the value if the form is within the limits, and a limit error
otherwise. By induction over the form; the loops take the parts of lists and dictionaries. -/
theorem Written.settles {h : Nat} {b : Bytes} {v : Value} (w : Written h b v) :
    ReadsBack h b v := by
  induction w with
  | @int text n number =>
      intro levels a c tail rest eq small
      obtain ⟨rfl, rfl⟩ := List.cons.inj eq
      cases levels with
      | zero => exact Settles.tooDeep (by simp)
      | succ levels =>
          have read := settles_integer number a rest
          unfold value
          rw [if_pos rfl]
          simpa using read
  | @bytes digits b ne digit keyed =>
      intro levels a c tail rest eq small
      obtain ⟨d, ds, rfl⟩ := List.exists_cons_of_ne_nil ne
      obtain ⟨rfl, rfl⟩ := List.cons.inj eq
      cases levels with
      | zero => exact Settles.tooDeep (by simp)
      | succ levels =>
          have head : isDigit d = true := digit d (by simp)
          have ne_105 : d ≠ 105 := by
            rintro rfl
            exact absurd head (by decide)
          have length : (ds ++ 58 :: b).length = ds.length + 1 + b.length := by simp; omega
          have read := settles_byteString digit keyed small rest
          rw [← length] at read
          unfold value
          rw [if_neg ne_105, if_pos head]
          exact (read.map Value.bytes).congr (by simp)
  | @list parts forms ih =>
      intro levels a c tail rest eq small
      obtain ⟨rfl, rfl⟩ := List.cons.inj eq
      cases levels with
      | zero => exact Settles.tooDeep (by simp)
      | succ levels =>
          have read := settles_items forms ih levels [] rest (le_refl a) small
          have fits : (((∀ p ∈ parts, p.height < levels) ∧
              (parts.flatMap Part.bytes).length + 1 ≤ a) ∧ True) ↔
              heightAbove parts < levels + 1 ∧ (parts.flatMap Part.bytes ++ [101]).length ≤ a := by
            rw [heightAbove_lt_iff, and_true, List.length_append, List.length_singleton]
          unfold value
          rw [if_neg (by decide), if_neg (by decide), if_pos rfl, List.append_assoc]
          refine Settles.get_bind ((read.bind fun _ => ?_).congr fits)
          simpa using Settles.pure
  | @dict slots sized forms ih =>
      intro levels a c tail rest eq small
      obtain ⟨rfl, rfl⟩ := List.cons.inj eq
      cases levels with
      | zero => exact Settles.tooDeep (by simp)
      | succ levels =>
          have read := settles_entries sized forms ih levels [] rest (le_refl a) small
          have fits : (((∀ s ∈ slots, s.part.height < levels) ∧
              (slots.flatMap Slot.bytes).length + 1 ≤ a) ∧ True) ↔
              heightAbove (slots.map Slot.part) < levels + 1 ∧
                (slots.flatMap Slot.bytes ++ [101]).length ≤ a := by
            rw [heightAbove_lt_iff, List.forall_mem_map, and_true, List.length_append,
              List.length_singleton]
          unfold value
          rw [if_neg (by decide), if_neg (by decide), if_neg (by decide), if_pos rfl,
            List.append_assoc]
          refine Settles.get_bind ((read.bind fun _ => ?_).congr fits)
          simpa [Fields.ofPairs] using Settles.pure

end HostedRepl.Wire
