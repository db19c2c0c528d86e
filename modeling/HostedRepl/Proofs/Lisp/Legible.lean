/-
What reading gives.

* `Vocabulary`, `Value.Over`: values without functions, by the floats and names
  that may occur in them.
* `IsToken`: the texts that the reader takes as one atom; `Vocabulary.tokens`:
  what an atom can be.
* `Reading.Sound`: what has been read is over these, and nests no deeper than
  the brackets and quotes around it leave room for; `Sound.step`: reading a
  character keeps this.
* `read_legible`: so forms that have been read are over `Vocabulary.tokens` and
  do not nest too deep.
-/
import HostedRepl.Lisp.Reader
import HostedRepl.Proofs.Decimal.ReadNumber
import HostedRepl.Proofs.Lisp.Depth

namespace HostedRepl.Lisp

/-- The floats and the names of keywords and symbols that occur in some values. -/
structure Vocabulary where
  floats : Float → Prop
  keywords : String → Prop
  symbols : String → Prop

/-- The value is built from atoms, without functions, and has no other floats and names than
these. -/
inductive Value.Over (A : Vocabulary) : Value → Prop
  | nil : Over A .nil
  | bool (b : Bool) : Over A (.bool b)
  | int (n : Int64) : Over A (.int n)
  | str (s : String) : Over A (.str s)
  | float {x : Float} : A.floats x → Over A (.float x)
  | keyword {name : String} : A.keywords name → Over A (.keyword name)
  | symbol {name : String} : A.symbols name → Over A (.symbol name)
  | list {items : List Value} : (∀ v ∈ items, Over A v) → Over A (.list items)
  | vector {items : List Value} : (∀ v ∈ items, Over A v) → Over A (.vector items)

lemma bind_eq_ok {ε α β : Type} {x : Except ε α} {f : α → Except ε β} {b : β} :
    x.bind f = .ok b ↔ ∃ a, x = .ok a ∧ f a = .ok b := by
  cases x <;> simp [Except.bind]

/-! ### Tokens -/

/-- The text is one token: it does not begin with a quote and has no delimiter in it. -/
structure IsToken (cs : List Char) : Prop where
  nonempty : cs ≠ []
  unquoted : cs.head? ≠ some '\''
  undivided : ∀ c ∈ cs, isDelimiter c = false

instance : DecidablePred IsToken := fun cs =>
  decidable_of_iff (cs ≠ [] ∧ cs.head? ≠ some '\'' ∧ cs.any isDelimiter = false)
    ⟨fun ⟨nonempty, unquoted, undivided⟩ => ⟨nonempty, unquoted, by simpa using undivided⟩,
      fun ⟨nonempty, unquoted, undivided⟩ => ⟨nonempty, unquoted, by simpa using undivided⟩⟩

/-- What an atom can be. -/
def Vocabulary.tokens : Vocabulary where
  floats x := x.isNaN = false
  keywords name := ∀ c ∈ name.toList, isDelimiter c = false
  symbols name := IsToken name.toList ∧ Value.ofAtom name.toList = .ok (.symbol name)

lemma IsToken.append {cs ds : List Char} (h : IsToken cs) (hds : ∀ d ∈ ds, isDelimiter d = false) :
    IsToken (cs ++ ds) where
  nonempty := by simp [h.nonempty]
  unquoted := by simpa [h.nonempty] using h.unquoted
  undivided c hc := (List.mem_append.mp hc).elim (h.undivided c) (hds c)

/-- The value of a token is an atom. -/
lemma over_ofAtom {cs : List Char} {v : Value} (token : IsToken cs)
    (h : Value.ofAtom cs = .ok v) : v.Over .tokens ∧ v.depth = 0 := by
  have whole := h
  revert h
  fun_cases Value.ofAtom cs with
  | case1 =>
      rintro ⟨⟩
      exact ⟨.nil, rfl⟩
  | case2 =>
      rintro ⟨⟩
      exact ⟨.bool true, rfl⟩
  | case3 =>
      rintro ⟨⟩
      exact ⟨.bool false, rfl⟩
  | case4 name =>
      rintro ⟨⟩
      refine ⟨.keyword fun c hc => token.undivided c (List.mem_cons_of_mem _ ?_), rfl⟩
      rwa [String.toList_ofList] at hc
  | case5 =>
      rename_i digit whole' _
      rw [if_pos digit, whole']
      rintro ⟨⟩
      exact ⟨.int _, rfl⟩
  | case6 =>
      rename_i digit read whole' _
      rw [if_pos digit, read, whole']
      rintro ⟨⟩
      exact ⟨.float (Decimal.parseFloat?_isNaN digit read), rfl⟩
  | case7 =>
      rename_i digit read whole' _
      rw [if_pos digit, read, whole']
      rintro ⟨⟩
  | case8 =>
      rename_i digit _
      rw [if_neg digit]
      rintro ⟨⟩
      have name : (String.ofList cs).toList = cs := String.toList_ofList
      exact ⟨.symbol ⟨name.symm ▸ token, name.symm ▸ whole⟩, rfl⟩

/-! ### The invariant of reading -/

/-- The form can stand inside of so many brackets and quotes. -/
def Value.Fits (v : Value) (around : ℕ) : Prop :=
  v.Over .tokens ∧ v.depth + around ≤ depthLimit

/-- What has been read in the open brackets fits there. -/
def Nested : List Frame → Prop
  | [] => True
  | .bracket _ items :: frames =>
    frames.length < depthLimit ∧ (∀ v ∈ items, v.Fits (frames.length + 1)) ∧ Nested frames
  | .quote :: frames => frames.length < depthLimit ∧ Nested frames

lemma Nested.length_le {frames : List Frame} (h : Nested frames) :
    frames.length ≤ depthLimit := by
  cases frames with
  | nil => exact Nat.zero_le _
  | cons f frames => cases f <;> exact h.1

/-- A quoted form is one deeper than the form. -/
lemma Value.Fits.quoteForm {v : Value} {around : ℕ} (h : v.Fits (around + 1)) :
    (quoteForm v).Fits around := by
  have quote : Value.Over .tokens (.symbol "quote") :=
    .symbol ⟨by decide, rfl⟩
  have items {P : Value → Prop} (hq : P (.symbol "quote")) (hv : P v) :
      ∀ w ∈ [.symbol "quote", v], P w := by simp [hq, hv]
  have depth : (Lisp.quoteForm v).depth ≤ v.depth + 1 :=
    Value.depth_list_le_iff.mpr (items (Nat.zero_le _) le_rfl)
  exact ⟨.list (items quote h.1), by have := h.2; omega⟩

/-- A closed bracket has room for its depth around it just if its items have, and it has itself. -/
lemma depth_build_add_le_iff {b : Bracket} {items : List Value} {around : ℕ} :
    (b.build items).depth + around ≤ depthLimit ↔
      around < depthLimit ∧ ∀ v ∈ items, v.depth + (around + 1) ≤ depthLimit := by
  have shallow (n : ℕ) : (b.build items).depth ≤ n + 1 ↔ ∀ v ∈ items, v.depth ≤ n := by
    cases b with
    | round => exact Value.depth_list_le_iff
    | square => exact Value.depth_vector_le_iff
  have pos : 0 < (b.build items).depth := by
    cases b with
    | round => exact Value.depth_list_pos items
    | square => exact Value.depth_vector_pos items
  constructor
  · intro h
    have below := (shallow (depthLimit - around - 1)).mp (by omega)
    exact ⟨by omega, fun v hv => by have := below v hv; omega⟩
  · rintro ⟨room, h⟩
    have := (shallow (depthLimit - around - 1)).mpr fun v hv => by have := h v hv; omega
    omega

/-- A closed bracket fits when there was room for it and its items fit in it. -/
lemma Value.Fits.build {b : Bracket} {items : List Value} {around : ℕ} (room : around < depthLimit)
    (h : ∀ v ∈ items, v.Fits (around + 1)) : (b.build items).Fits around := by
  refine ⟨?_, depth_build_add_le_iff.mpr ⟨room, fun v hv => (h v hv).2⟩⟩
  cases b with
  | round => exact .list fun v hv => (h v hv).1
  | square => exact .vector fun v hv => (h v hv).1

namespace Reading

/-- All that has been read fits where it stands. -/
structure Sound (r : Reading) : Prop where
  forms : ∀ v ∈ r.forms, v.Fits 0
  frames : Nested r.frames
  mode : ∀ acc, r.mode = .atom acc → IsToken acc.reverse

lemma sound_start : start.Sound where
  forms := by simp [start]
  frames := trivial
  mode := by simp [start]

/-- A form is placed where it fits, after the quotes before it. -/
lemma sound_place {forms : List Value} {frames : List Frame} {v : Value}
    (hforms : ∀ w ∈ forms, w.Fits 0) (hframes : Nested frames) (hv : v.Fits frames.length) :
    (place forms frames v).Sound := by
  fun_induction place forms frames v with
  | case1 v =>
      refine ⟨fun w hw => ?_, trivial, nofun⟩
      rcases List.mem_cons.mp hw with rfl | hw
      · exact hv
      · exact hforms w hw
  | case2 b items frames v =>
      refine ⟨hforms, ⟨hframes.1, fun w hw => ?_, hframes.2.2⟩, nofun⟩
      rcases List.mem_cons.mp hw with rfl | hw
      · exact hv
      · exact hframes.2.1 w hw
  | case3 frames v ih => exact ih hframes.2 hv.quoteForm

namespace Sound

variable {r r' : Reading}

/-- Where in a token the place of reading is does not matter, except for atoms. -/
lemma turn (h : r.Sound) {mode : Mode} (token : ∀ acc, mode = .atom acc → IsToken acc.reverse) :
    Sound { r with mode := mode } := ⟨h.forms, h.frames, token⟩

lemma add (h : r.Sound) {v : Value} (hv : v.Over .tokens) (depth : v.depth = 0) :
    (r.add v).Sound := by
  refine sound_place h.forms h.frames ⟨hv, ?_⟩
  rw [depth, Nat.zero_add]
  exact h.frames.length_le

lemma enter (h : r.Sound) {f : Frame} (empty : f = .quote ∨ ∃ b, f = .bracket b [])
    (entered : r.enter f = .ok r') : r'.Sound := by
  rw [Reading.enter] at entered
  split_ifs at entered with full
  cases entered
  refine ⟨h.forms, ?_, nofun⟩
  rcases empty with rfl | ⟨b, rfl⟩
  · exact ⟨Nat.not_le.mp full, h.frames⟩
  · exact ⟨Nat.not_le.mp full, by simp, h.frames⟩

lemma leave (h : r.Sound) {b : Bracket} (left : r.leave b = .ok r') : r'.Sound := by
  rw [Reading.leave] at left
  split at left
  · rename_i b' items frames framed
    split_ifs at left
    cases left
    have nested := h.frames
    rw [framed] at nested
    obtain ⟨room, fit, around⟩ := nested
    exact sound_place h.forms around
      (.build room fun v hv => fit v (List.mem_reverse.mp hv))
  · cases left

lemma begin (h : r.Sound) {c : Char} (begun : r.begin c = .ok r') : r'.Sound := by
  rw [Reading.begin.eq_def] at begun
  split at begun
  · exact h.enter (.inr ⟨_, rfl⟩) begun
  · exact h.enter (.inr ⟨_, rfl⟩) begun
  · exact h.leave begun
  · exact h.leave begun
  · exact h.enter (.inl rfl) begun
  · cases begun
    exact h.turn nofun
  · cases begun
    exact h.turn nofun
  · cases begun
    exact h.turn nofun
  · split at begun
    · cases begun
      exact h.turn nofun
    · cases begun
      refine h.turn ?_
      rintro _ ⟨⟩
      rename_i round square round' square' quote string comment comma blank
      refine ⟨by simp, by simpa using quote, ?_⟩
      have unblank := Bool.eq_false_iff.mpr blank
      have undivided : isDelimiter c = false := by
        simp only [isDelimiter, unblank, Bool.false_or, Bool.or_eq_false_iff, beq_eq_false_iff_ne]
        exact ⟨⟨⟨⟨⟨⟨round, round'⟩, square⟩, square'⟩, string⟩, comma⟩, comment⟩
      simpa using undivided

lemma endAtom (h : r.Sound) {acc : List Char} (token : IsToken acc.reverse)
    (ended : r.endAtom acc = .ok r') : r'.Sound := by
  rw [Reading.endAtom] at ended
  cases value : Value.ofAtom acc.reverse with
  | error e =>
      rw [value] at ended
      cases ended
  | ok v =>
      rw [value] at ended
      cases ended
      have atom := over_ofAtom token value
      exact h.add atom.1 atom.2

/-- **Reading a character keeps what has been read in place.** -/
theorem step (h : r.Sound) {c : Char} (stepped : r.step c = .ok r') : r'.Sound := by
  rw [Reading.step] at stepped
  split at stepped
  · exact h.begin stepped
  · cases stepped
    split
    · exact h.turn nofun
    · exact h
  · split at stepped
    · cases stepped
      exact h.add (.str _) rfl
    · split at stepped
      · cases stepped
        exact h.turn nofun
      · cases stepped
        exact h.turn nofun
  · split at stepped
    · cases stepped
      exact h.turn nofun
    · cases stepped
  · rename_i acc atom
    have token := h.mode acc atom
    split at stepped
    · obtain ⟨r₁, ended, begun⟩ := bind_eq_ok.mp stepped
      exact (h.endAtom token ended).begin begun
    · rename_i whole
      cases stepped
      refine h.turn ?_
      rintro _ ⟨⟩
      rw [List.reverse_cons]
      exact token.append (by simpa using whole)

lemma steps (h : r.Sound) {cs : List Char} (stepped : r.steps cs = .ok r') : r'.Sound := by
  induction cs generalizing r with
  | nil =>
      cases stepped
      exact h
  | cons c cs ih =>
      rw [Reading.steps] at stepped
      split at stepped
      · rename_i next
        exact ih (h.step next) stepped
      · cases stepped

end Sound

lemma Sound.finish {r : Reading} (h : r.Sound) {forms : List Value}
    (finished : r.finish = .ok forms) : ∀ v ∈ forms, v.Fits 0 := by
  have closed {r : Reading} (h : r.Sound) (closed : r.closed = .ok forms) :
      ∀ v ∈ forms, v.Fits 0 := by
    rw [Reading.closed] at closed
    split at closed
    · cases closed
      exact fun v hv => h.forms v (List.mem_reverse.mp hv)
    · cases closed
    · cases closed
  rw [Reading.finish] at finished
  split at finished
  · exact closed h finished
  · exact closed h finished
  · cases finished
  · cases finished
  · rename_i acc atom
    obtain ⟨r₁, ended, finished⟩ := bind_eq_ok.mp finished
    exact closed (h.endAtom (h.mode acc atom) ended) finished

end Reading

/-- **Forms that have been read** are over what tokens can be and do not nest too deep. -/
theorem read_legible {code : String} {forms : List Value} (h : read code = .ok forms) :
    ∀ v ∈ forms, v.Over .tokens ∧ v.depth ≤ depthLimit := by
  obtain ⟨r, stepped, finished⟩ := bind_eq_ok.mp h
  exact (Reading.sound_start.steps stepped).finish finished

end HostedRepl.Lisp
