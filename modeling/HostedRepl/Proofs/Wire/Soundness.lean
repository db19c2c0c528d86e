/-
What is read is a form of a value.

A reading that succeeds has taken some bytes off its input. They are bytes that
the grammar asks for, so nothing outside the grammar is accepted.

* `Consumes`: the bytes that a reading has taken off its input.
* `consumes_next`, `consumes_take`, `consumes_integer`, `consumes_byteString`:
  the readings without parts.
* `consumes_items`, `consumes_entries`: the loops over the parts of a list and
  of a dictionary.
* `value_sound`: **what is read as a value is a form of it**, by induction on
  the open levels.
* `decode_sound`: what one call of `decode` takes off a stream.
* `decodeAll_iff`: which bytes are accepted, and as which value.
-/
import Mathlib.Tactic
import HostedRepl.Proofs.Wire.RoundTrip

namespace HostedRepl.Wire

open Bytes Decoder

/-- The bytes were taken off the front of the input. -/
structure Consumes (i : Input) (bs : Bytes) (j : Input) : Prop where
  rest : i.rest = bs ++ j.rest
  allowance : i.allowance = bs.length + j.allowance

variable {α β : Type} {i j k : Input}

lemma Consumes.trans {s t : Bytes} (h : Consumes i s j) (h' : Consumes j t k) :
    Consumes i (s ++ t) k where
  rest := by rw [h.rest, h'.rest, List.append_assoc]
  allowance := by rw [h.allowance, h'.allowance, List.length_append, Nat.add_assoc]

/-- Two readings in a row both succeed if they do together. -/
lemma exists_of_bind {m : Decoder α} {f : α → Decoder β} {y : β} (h : (m >>= f) i = .ok y k) :
    ∃ x j, m i = .ok x j ∧ f x j = .ok y k := by
  simp only [Bind.bind, EStateM.bind] at h
  cases first : m i with
  | ok x j =>
      rw [first] at h
      exact ⟨x, j, rfl, h⟩
  | error e j =>
      rw [first] at h
      cases h

lemma exists_of_map {m : Decoder α} {f : α → β} {y : β} (h : (f <$> m) i = .ok y k) :
    ∃ x, m i = .ok x k ∧ f x = y := by
  simp only [Functor.map, EStateM.map] at h
  cases first : m i with
  | ok x j =>
      rw [first] at h
      cases h
      exact ⟨x, rfl, rfl⟩
  | error e j =>
      rw [first] at h
      cases h

/-! ### Bytes -/

lemma consumes_next {b : UInt8} (h : next i = .ok b j) : Consumes i [b] j := by
  obtain ⟨allowance, rest⟩ := i
  cases allowance with
  | zero => cases h
  | succ n =>
      cases rest with
      | nil => cases h
      | cons c rest =>
          cases h
          exact ⟨rfl, Nat.add_comm _ _⟩

lemma append_of_splitBytes {n : Nat} {acc bytes taken rest : Bytes}
    (h : splitBytes n acc bytes = some (taken, rest)) :
    ∃ bs, bs.length = n ∧ bytes = bs ++ rest ∧ taken = bs.reverse ++ acc := by
  induction n generalizing acc bytes with
  | zero =>
      cases h
      exact ⟨[], rfl, rfl, rfl⟩
  | succ n ih =>
      cases bytes with
      | nil => cases h
      | cons b bytes =>
          obtain ⟨bs, length, spelled, rfl⟩ := ih h
          exact ⟨b :: bs, by rw [List.length_cons, length], by rw [spelled, List.cons_append],
            by simp⟩

lemma consumes_take {n : Nat} {bs : Bytes} (h : take n i = .ok bs j) :
    bs.length = n ∧ Consumes i bs j := by
  rw [take] at h
  split at h
  · cases h
  · next enough =>
    split at h
    · next taken rest split =>
      obtain ⟨bs', length, spelled, rfl⟩ := append_of_splitBytes split
      cases h
      have same : (bs'.reverse ++ []).reverse = bs' := by simp
      rw [same]
      exact ⟨length, spelled, by dsimp only; omega⟩
    · cases h

/-! ### Integers -/

lemma toChar_injective {b c : UInt8} (hb : b.toNat < 128) (hc : c.toNat < 128)
    (h : toChar b = toChar c) : b = c := by
  have same := congrArg Char.toNat h
  rw [toNat_toChar hb, toNat_toChar hc] at same
  exact UInt8.toNat_inj.mp same

lemma isDigit_of_toChar {b : UInt8} (hb : b.toNat < 128) (h : (toChar b).isDigit = true) :
    isDigit b = true := by
  have range := Decimal.range_of_isDigit h
  rw [toNat_toChar hb] at range
  exact isDigit_iff.mpr range

/-- The characters of an integer up to its `e`. -/
lemma consumes_integerText {room : Nat} {acc cs : List Char}
    (h : integerText room acc i = .ok cs j) :
    ∃ text, Consumes i (text ++ [101]) j ∧ cs = acc.reverse ++ text.map toChar ∧
      ∀ b ∈ text, b.toNat < 128 := by
  induction room generalizing acc i with
  | zero =>
      unfold integerText at h
      obtain ⟨b, i', first, h⟩ := exists_of_bind h
      have front := consumes_next first
      split at h
      · next last =>
        cases h
        exact ⟨[], last ▸ front, by simp, fun b hb => absurd hb List.not_mem_nil⟩
      · cases h
  | succ room ih =>
      unfold integerText at h
      obtain ⟨b, i', first, h⟩ := exists_of_bind h
      have front := consumes_next first
      split at h
      · next last =>
        cases h
        exact ⟨[], last ▸ front, by simp, fun b hb => absurd hb List.not_mem_nil⟩
      · dsimp only at h
        split at h
        · next char =>
          obtain ⟨text, taken, rfl, ascii⟩ := ih h
          have small : b.toNat < 128 := by
            rw [Bool.or_eq_true, isDigit_iff, Bool.and_eq_true, decide_eq_true_eq] at char
            rcases char with digit | ⟨rfl, -⟩
            · omega
            · decide
          exact ⟨b :: text, front.trans taken, by simp [toChar],
            List.forall_mem_cons.mpr ⟨small, ascii⟩⟩
        · cases h

/-- A canonical form is a zero, digits, or digits after a minus sign. -/
lemma cases_of_isCanonical {cs : List Char} (h : isCanonical cs = true) :
    cs = ['0'] ∨ ∃ c ds, c ≠ '0' ∧ (∀ d ∈ c :: ds, d.isDigit = true) ∧
      (cs = '-' :: c :: ds ∨ cs = c :: ds) := by
  unfold isCanonical at h
  split at h
  · cases h
  · exact .inl rfl
  · next c ds =>
    rw [Bool.and_eq_true, bne_iff_ne, List.all_eq_true] at h
    exact .inr ⟨c, ds, h.1, h.2, .inl rfl⟩
  · next c ds _ _ =>
    rw [Bool.and_eq_true, bne_iff_ne, List.all_eq_true] at h
    exact .inr ⟨c, ds, h.1, h.2, .inr rfl⟩

/-- Bytes are a numeral if their characters are. -/
lemma numeral_of_map {ds : Bytes} {c : Char} {cs : List Char} (ascii : ∀ b ∈ ds, b.toNat < 128)
    (eq : ds.map toChar = c :: cs) (led : c ≠ '0') (digits : ∀ d ∈ c :: cs, d.isDigit = true) :
    Numeral ds where
  ne_nil := by
    rintro rfl
    cases eq
  digits d hd := by
    refine isDigit_of_toChar (ascii d hd) (digits _ ?_)
    rw [← eq]
    exact List.mem_map_of_mem hd
  led := by
    intro zero
    obtain ⟨rest, rfl⟩ := List.head?_eq_some_iff.mp zero
    exact led (List.cons.inj eq).1.symm

/-- The characters that a reader takes for an integer are the written form of it. -/
lemma integerText_of_reads {text : Bytes} {n : Int64} (ascii : ∀ b ∈ text, b.toNat < 128)
    (canonical : isCanonical (text.map toChar) = true)
    (parsed : Decimal.parseInt64? (text.map toChar) = some n) : IntegerText text n := by
  rcases cases_of_isCanonical canonical with zero | ⟨c, cs, led, digits, minus | plain⟩
  · obtain ⟨b, rest, rfl, first, none⟩ := List.map_eq_cons_iff.mp zero
    obtain rfl := List.map_eq_nil_iff.mp none
    obtain rfl := toChar_injective (ascii b (by simp)) (by decide) (first.trans rfl : _ = toChar 48)
    have number : Decimal.parseInt64? ['0'] = some 0 := by decide
    rw [zero, number] at parsed
    obtain rfl := Option.some.inj parsed
    exact .zero
  · obtain ⟨b, ds, rfl, first, eq⟩ := List.map_eq_cons_iff.mp minus
    obtain rfl := toChar_injective (ascii b (by simp)) (by decide) (first.trans rfl : _ = toChar 45)
    have numeral := numeral_of_map (fun d hd => ascii d (List.mem_cons_of_mem _ hd)) eq led digits
    rw [minus, ← eq] at parsed
    refine .negative numeral ?_
    rw [Decimal.toInt_of_parse_minus (by simpa using numeral.ne_nil) numeral.isDigit_map parsed,
      digitsValue_map_toChar numeral.digits]
  · have numeral := numeral_of_map ascii plain led digits
    refine .positive numeral ?_
    rw [Decimal.toInt_of_parse_digits (by simpa using numeral.ne_nil) numeral.isDigit_map parsed,
      digitsValue_map_toChar numeral.digits]

lemma consumes_integer {v : Value} (h : integer i = .ok v j) :
    ∃ text n, v = .int n ∧ IntegerText text n ∧ Consumes i (text ++ [101]) j := by
  obtain ⟨cs, j', collected, h⟩ := exists_of_bind h
  obtain ⟨text, taken, eq, ascii⟩ := consumes_integerText collected
  rw [List.reverse_nil, List.nil_append] at eq
  subst eq
  by_cases canonical : isCanonical (text.map toChar) = true
  · cases parsed : Decimal.parseInt64? (text.map toChar) with
    | none =>
        simp only [canonical, if_true, parsed] at h
        cases h
    | some n =>
        simp only [canonical, if_true, parsed] at h
        cases h
        exact ⟨text, n, rfl, integerText_of_reads ascii canonical parsed, taken⟩
  · rw [if_neg canonical] at h
    cases h

/-! ### Byte strings -/

/-- The digits of a length up to the colon. -/
lemma consumes_length {fuel n m : Nat} (h : Decoder.length fuel n i = .ok m j) :
    ∃ ds, Consumes i (ds ++ [58]) j ∧ (∀ d ∈ ds, isDigit d = true) ∧
      m = 10 ^ ds.length * n + digitsValue ds := by
  induction fuel generalizing n i with
  | zero => cases h
  | succ fuel ih =>
      unfold Decoder.length at h
      obtain ⟨b, i', first, h⟩ := exists_of_bind h
      have front := consumes_next first
      split at h
      · next last =>
        cases h
        exact ⟨[], last ▸ front, fun d hd => absurd hd List.not_mem_nil, by simp [digitsValue]⟩
      · split at h
        · next digit =>
          dsimp only at h
          split at h
          · cases h
          · obtain ⟨ds, taken, digits, rfl⟩ := ih h
            refine ⟨b :: ds, front.trans taken, List.forall_mem_cons.mpr ⟨digit, digits⟩, ?_⟩
            rw [digitsValue_cons, List.length_cons, pow_succ]
            ring
        · cases h

lemma consumes_byteString {d : UInt8} {b : Bytes} (digit : isDigit d = true)
    (h : byteString d i = .ok b j) :
    ∃ ds, Consumes i (ds ++ 58 :: b) j ∧ (∀ c ∈ d :: ds, isDigit c = true) ∧
      digitsValue (d :: ds) = b.length := by
  unfold byteString at h
  obtain ⟨i', i'', got, h⟩ := exists_of_bind h
  cases got
  obtain ⟨n, i'', read, h⟩ := exists_of_bind h
  obtain ⟨ds, front, digits, rfl⟩ := consumes_length read
  obtain ⟨length, taken⟩ := consumes_take h
  refine ⟨ds, ?_, List.forall_mem_cons.mpr ⟨digit, digits⟩, by rw [digitsValue_cons, length]⟩
  have whole := front.trans taken
  rwa [List.append_assoc, List.singleton_append] at whole

/-! ### Values -/

/-- What is read with this many open levels is a form of a value, less its first byte, and no node
of the form is deeper than the levels allow. -/
def Sound (levels : Nat) : Prop :=
  ∀ c i v j, value levels c i = .ok v j →
    ∃ h tail, Consumes i tail j ∧ Written h (c :: tail) v ∧ h < levels

/-- The items of a list up to its end. -/
lemma consumes_items {levels : Nat} (sound : Sound levels) {fuel : Nat} {acc vs : List Value}
    (h : items (value levels) fuel acc i = .ok vs j) :
    ∃ parts : List Part, Consumes i (parts.flatMap Part.bytes ++ [101]) j ∧
      vs = (parts.map Part.value).reverse ++ acc ∧
      ∀ p ∈ parts, Written p.height p.bytes p.value ∧ p.height < levels := by
  induction fuel generalizing acc i with
  | zero => cases h
  | succ fuel ih =>
      unfold items at h
      obtain ⟨b, i', first, h⟩ := exists_of_bind h
      have front := consumes_next first
      split at h
      · next last =>
        cases h
        exact ⟨[], last ▸ front, rfl, fun p hp => absurd hp List.not_mem_nil⟩
      · obtain ⟨v, i'', read, h⟩ := exists_of_bind h
        obtain ⟨height, tail, taken, form, depth⟩ := sound b i' v i'' read
        obtain ⟨parts, others, rfl, forms⟩ := ih h
        refine ⟨⟨height, b :: tail, v⟩ :: parts, ?_, by simp,
          List.forall_mem_cons.mpr ⟨⟨form, depth⟩, forms⟩⟩
        have whole := (front.trans taken).trans others
        simpa using whole

/-- The entries of a dictionary up to its end, each put in after those before it. -/
lemma consumes_entries {levels : Nat} (sound : Sound levels) {fuel : Nat} {acc fields : Fields}
    (h : entries (value levels) fuel acc i = .ok fields j) :
    ∃ slots : List Slot, Consumes i (slots.flatMap Slot.bytes ++ [101]) j ∧
      fields = (slots.map Slot.entry).foldl (fun fields p => Fields.insert p.1 p.2 fields) acc ∧
      ∀ s ∈ slots, s.Sized ∧ Written s.part.height s.part.bytes s.part.value ∧
        s.part.height < levels := by
  induction fuel generalizing acc i with
  | zero => cases h
  | succ fuel ih =>
      unfold entries at h
      obtain ⟨b, i₁, first, h⟩ := exists_of_bind h
      have front := consumes_next first
      split at h
      · next last =>
        cases h
        exact ⟨[], last ▸ front, rfl, fun s hs => absurd hs List.not_mem_nil⟩
      · split at h
        · next digit =>
          -- a key, the first byte of a value, the rest of it, and the other entries
          obtain ⟨key, i₂, named, h⟩ := exists_of_bind h
          obtain ⟨c, i₃, second, h⟩ := exists_of_bind h
          obtain ⟨v, i₄, read, h⟩ := exists_of_bind h
          obtain ⟨ds, keyed, digits, length⟩ := consumes_byteString digit named
          obtain ⟨height, tail, taken, form, depth⟩ := sound c i₃ v i₄ read
          obtain ⟨slots, others, rfl, forms⟩ := ih h
          have sized : Slot.Sized ⟨b :: ds, key, ⟨height, c :: tail, v⟩⟩ :=
            ⟨List.cons_ne_nil _ _, digits, length⟩
          refine ⟨⟨b :: ds, key, ⟨height, c :: tail, v⟩⟩ :: slots, ?_, rfl,
            List.forall_mem_cons.mpr ⟨⟨sized, form, depth⟩, forms⟩⟩
          have whole := front.trans (keyed.trans ((consumes_next second).trans
            (taken.trans others)))
          simpa [Slot.bytes] using whole
        · cases h

/-- **What is read as a value is a form of it**, by induction on the open levels. -/
theorem value_sound (levels : Nat) : Sound levels := by
  induction levels with
  | zero =>
      intro c i v j h
      cases h
  | succ levels ih =>
      intro c i v j h
      unfold value at h
      split at h
      · next int =>
        obtain ⟨text, n, rfl, form, taken⟩ := consumes_integer h
        exact ⟨0, _, taken, int ▸ .int form, Nat.succ_pos _⟩
      split at h
      · next digit =>
        obtain ⟨b, read, rfl⟩ := exists_of_map h
        obtain ⟨ds, taken, digits, length⟩ := consumes_byteString digit read
        exact ⟨0, _, taken, .bytes (List.cons_ne_nil _ _) digits length, Nat.succ_pos _⟩
      split at h
      · next list =>
        obtain ⟨i', i'', got, h⟩ := exists_of_bind h
        cases got
        obtain ⟨vs, j', read, h⟩ := exists_of_bind h
        cases h
        obtain ⟨parts, taken, rfl, forms⟩ := consumes_items ih read
        have form := Written.list fun p hp => (forms p hp).1
        refine ⟨_, _, taken, ?_, heightAbove_lt_iff.mpr fun p hp => (forms p hp).2⟩
        simpa [list] using form
      split at h
      · next dict =>
        obtain ⟨i', i'', got, h⟩ := exists_of_bind h
        cases got
        obtain ⟨fields, j', read, h⟩ := exists_of_bind h
        cases h
        obtain ⟨slots, taken, rfl, forms⟩ := consumes_entries ih read
        have form := Written.dict (fun s hs => (forms s hs).1) fun s hs => (forms s hs).2.1
        have depth : heightAbove (slots.map Slot.part) < levels + 1 := by
          rw [heightAbove_lt_iff, List.forall_mem_map]
          exact fun s hs => (forms s hs).2.2
        exact ⟨_, _, taken, dict ▸ form, depth⟩
      · cases h

/-! ### Streams and whole inputs -/

/-- What one call of `decode` takes off a stream is a form within the limits of a frame. -/
lemma decode_sound {b : Bytes} {v : Value} (read : (decode b).result = .ok v) :
    ∃ form, b = form ++ (decode b).rest ∧ form.length = (decode b).consumed ∧
      form.length ≤ frameLimit ∧ ∃ h ≤ depthLimit, Written h form v := by
  cases b with
  | nil => cases read
  | cons c tail =>
      rw [decode] at read ⊢
      cases got : value (depthLimit + 1) c ⟨frameLimit - 1, tail⟩ with
      | error e j =>
          rw [got] at read
          cases read
      | ok w j =>
          rw [got] at read
          cases read
          obtain ⟨h, form, taken, written, depth⟩ := value_sound _ _ _ _ _ got
          have spelled : tail = form ++ j.rest := taken.rest
          have length : frameLimit - 1 = form.length + j.allowance := taken.allowance
          have pos : 0 < frameLimit := by decide
          refine ⟨c :: form, ?_, ?_, ?_, h, Nat.le_of_lt_succ depth, written⟩
          · rw [spelled, List.cons_append]
          · rw [List.length_cons]
            dsimp only
            omega
          · rw [List.length_cons]
            omega

/-- **Which bytes are accepted, and as which value**: the forms within the limits of a frame. -/
theorem decodeAll_iff {b : Bytes} {v : Value} :
    decodeAll b = .ok v ↔ b.length ≤ frameLimit ∧ ∃ h ≤ depthLimit, Written h b v := by
  constructor
  · intro accepted
    rw [decodeAll] at accepted
    cases read : (decode b).result with
    | error e =>
        rw [read] at accepted
        cases accepted
    | ok w =>
        rw [read] at accepted
        dsimp only at accepted
        split at accepted
        · next empty =>
          cases accepted
          obtain ⟨form, spelled, -, length, h, depth, written⟩ := decode_sound read
          rw [List.isEmpty_iff.mp empty, List.append_nil] at spelled
          subst spelled
          exact ⟨length, h, depth, written⟩
        · cases accepted
  · rintro ⟨length, h, depth, form⟩
    have read := form.decode_fits [] depth length
    rw [List.append_nil] at read
    simp [decodeAll, read]

end HostedRepl.Wire
