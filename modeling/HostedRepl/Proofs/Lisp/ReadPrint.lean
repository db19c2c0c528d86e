/-
Reading what has been printed.

* `Value.chars_build_cons`: a sequence is printed as its items with spaces
  between them, in brackets.
* `Apart`: what may follow a token. `Reading.Reads`: reading a printed value
  adds the value to what has been read, unless it nests too deep;
  `reads_token`, `reads_str` and `reads_build` show it for each kind of value,
  and `Value.Over.reads` puts them together.
* `Value.Readable`: the values that are meant to be read back.
* `read_print`: they are, and so are all forms that have been read.
-/
import HostedRepl.Lisp.Primitive
import HostedRepl.Proofs.Decimal.WrittenNumber
import HostedRepl.Proofs.Lisp.Legible

namespace HostedRepl.Lisp

/-! ### Printed texts -/

/-- The opening character of a bracket. -/
def Bracket.opening : Bracket → Char
  | .round => '('
  | .square => '['

namespace Value

mutual

/-- Writing goes on after what is written already. -/
lemma write_eq (readably : Bool) : ∀ (v : Value) (out : String),
    v.write readably out = out ++ v.write readably ""
  | .nil, out | .bool b, out | .int n, out | .float x, out | .str s, out => by simp [write]
  | .keyword name, out => by simp [write, String.append_assoc]
  | .symbol name, out => by simp [write]
  | .list [], out => by simp [write]
  | .list (v :: vs), out => by
      rw [write, write, writeTail_eq, write_eq readably v (out ++ "("),
        writeTail_eq readably vs (write readably v _), write_eq readably v ("" ++ "(")]
      simp [String.append_assoc]
  | .vector [], out => by simp [write]
  | .vector (v :: vs), out => by
      rw [write, write, writeTail_eq, write_eq readably v (out ++ "["),
        writeTail_eq readably vs (write readably v _), write_eq readably v ("" ++ "[")]
      simp [String.append_assoc]
  | .closure f, out => by simp [write, String.append_assoc]
  | .builtin b, out => by simp [write, String.append_assoc]

lemma writeTail_eq (readably : Bool) : ∀ (vs : List Value) (out : String),
    writeTail readably vs out = out ++ writeTail readably vs ""
  | [], out => by simp [writeTail]
  | v :: vs, out => by
      rw [writeTail, writeTail, writeTail_eq readably vs, write_eq readably v (out ++ " "),
        writeTail_eq readably vs (write readably v _), write_eq readably v ("" ++ " ")]
      simp [String.append_assoc]

end

/-- The characters of a printed value. -/
def chars (v : Value) : List Char := v.print.toList

/-- Printed values, each after a space. -/
def tailChars (vs : List Value) : List Char := vs.flatMap fun v => ' ' :: v.chars

lemma toList_writeTail (vs : List Value) : (writeTail true vs "").toList = tailChars vs := by
  induction vs with
  | nil => rfl
  | cons v vs ih =>
      rw [writeTail, writeTail_eq, write_eq]
      simp [ih, tailChars, chars, print]

lemma chars_build_nil (b : Bracket) : (b.build []).chars = [b.opening, b.close] := by
  cases b <;> rfl

lemma chars_build_cons (b : Bracket) (v : Value) (vs : List Value) :
    (b.build (v :: vs)).chars = b.opening :: (v.chars ++ (tailChars vs ++ [b.close])) := by
  cases b <;>
    · rw [chars, print, Bracket.build, write, writeTail_eq, write_eq]
      simp [toList_writeTail, Bracket.opening, Bracket.close, chars, print]

lemma chars_str (s : String) :
    (Value.str s).chars = '"' :: (s.toList.flatMap escapeChar ++ ['"']) := by
  simp [chars, print, write, escapeString]

end Value

/-! ### Reading to the end -/

/-- A text that a token does not go on with: it is empty or begins with a delimiter. -/
def Apart (cs : List Char) : Prop := ∀ c ∈ cs.head?, isDelimiter c = true

namespace Reading

/-- The forms that are read if the text goes on with some characters and ends. -/
def run (r : Reading) (cs : List Char) : Except ReadError (List Value) := (r.steps cs).bind finish

lemma run_cons (r : Reading) (c : Char) (cs : List Char) :
    r.run (c :: cs) = (r.step c).bind fun r => r.run cs := by
  rw [run, steps]
  cases r.step c <;> rfl

lemma run_of_step {r r' : Reading} {c : Char} (h : r.step c = .ok r') (cs : List Char) :
    r.run (c :: cs) = r'.run cs := by rw [run_cons, h]; rfl

lemma add_mode (r : Reading) (v : Value) : (r.add v).mode = .between := by
  rw [add]
  generalize r.frames = frames
  induction frames generalizing v with
  | nil => rfl
  | cons f frames ih =>
      cases f with
      | bracket => rfl
      | quote => exact ih (quoteForm v)

/-- Between tokens the place of reading is the whole state. -/
lemma step_between {r : Reading} (h : r.mode = .between) (c : Char) : r.step c = r.begin c := by
  rw [step, h]

/-! ### Tokens -/

/-- The end of an atom. -/
lemma run_endAtom {r : Reading} {acc : List Char} {v : Value} {rest : List Char}
    (value : Value.ofAtom acc.reverse = .ok v) (mode : r.mode = .atom acc) (apart : Apart rest) :
    r.run rest = (r.add v).run rest := by
  have ended : r.endAtom acc = .ok (r.add v) := by rw [endAtom, value]; rfl
  cases rest with
  | nil =>
      change r.finish = (r.add v).finish
      rw [finish, finish, mode, add_mode]
      dsimp only
      rw [ended]
      rfl
  | cons c rest =>
      have delimiter : isDelimiter c = true := apart c rfl
      have same : r.step c = (r.add v).step c := by
        rw [step_between (add_mode r v), step, mode]
        dsimp only
        rw [if_pos delimiter, ended]
        rfl
      rw [run_cons, run_cons, same]

lemma run_atom {r : Reading} {cs rest acc : List Char} {v : Value}
    (undivided : ∀ c ∈ cs, isDelimiter c = false) (mode : r.mode = .atom acc)
    (value : Value.ofAtom (acc.reverse ++ cs) = .ok v) (apart : Apart rest) :
    r.run (cs ++ rest) = (r.add v).run rest := by
  induction cs generalizing r acc with
  | nil => exact run_endAtom (by simpa using value) mode apart
  | cons c cs ih =>
      have next : r.step c = .ok { r with mode := .atom (c :: acc) } := by
        rw [step, mode]
        exact if_neg (by simp [undivided c (by simp)])
      rw [List.cons_append, run_of_step next]
      exact ih (fun d hd => undivided d (List.mem_cons_of_mem c hd)) rfl (by simpa using value)

/-- The first character of an atom. -/
lemma begin_atom (r : Reading) {c : Char} (undivided : isDelimiter c = false)
    (unquoted : c ≠ '\'') : r.begin c = .ok { r with mode := .atom [c] } := by
  have other {d : Char} (h : isDelimiter d = true) : c ≠ d := by
    rintro rfl
    simp [h] at undivided
  rw [begin]
  · exact if_neg fun blank => by simp [isDelimiter, blank] at undivided
  all_goals first | exact unquoted | exact other rfl

/-- **A token is read as its value.** -/
lemma run_token {r : Reading} {cs rest : List Char} {v : Value} (token : IsToken cs)
    (value : Value.ofAtom cs = .ok v) (mode : r.mode = .between) (apart : Apart rest) :
    r.run (cs ++ rest) = (r.add v).run rest := by
  obtain ⟨c, cs, rfl⟩ := List.exists_cons_of_ne_nil token.nonempty
  have begun := begin_atom r (token.undivided c (by simp)) (by simpa using token.unquoted)
  rw [List.cons_append, run_of_step ((step_between mode c).trans begun)]
  exact run_atom (fun d hd => token.undivided d (List.mem_cons_of_mem c hd)) rfl value apart

/-! ### Strings -/

/-- A character of a string is read from its escape. -/
lemma run_escapeChar {r : Reading} {acc rest : List Char} (c : Char) (mode : r.mode = .string acc) :
    r.run (escapeChar c ++ rest) = run { r with mode := .string (c :: acc) } rest := by
  have escaped {d : Char} (known : unescape? d = some c) :
      r.run ('\\' :: d :: rest) = run { r with mode := .string (c :: acc) } rest := by
    have first : r.step '\\' = .ok { r with mode := .escape acc } := by rw [step, mode]; rfl
    rw [run_of_step first, run_of_step]
    rw [step]
    dsimp only
    rw [known]
  fun_cases escapeChar c with
  | case1 | case2 | case3 | case4 | case5 => exact escaped rfl
  | case6 =>
      rename_i quote backslash _ _ _
      have plain : r.step c = .ok { r with mode := .string (c :: acc) } := by
        rw [step, mode]
        dsimp only
        rw [if_neg quote, if_neg backslash]
      exact run_of_step plain rest

lemma run_string {r : Reading} {acc : List Char} (cs rest : List Char)
    (mode : r.mode = .string acc) :
    r.run (cs.flatMap escapeChar ++ '"' :: rest) =
      (r.add (.str (String.ofList (acc.reverse ++ cs)))).run rest := by
  induction cs generalizing r acc with
  | nil =>
      have closed : r.step '"' = .ok (r.add (.str (String.ofList acc.reverse))) := by
        rw [step, mode]
        rfl
      simpa using run_of_step closed rest
  | cons c cs ih =>
      rw [List.flatMap_cons, List.append_assoc, run_escapeChar c mode, ih rfl]
      simp [add]

/-- **A string is read back.** -/
lemma run_str {r : Reading} (s : String) (rest : List Char) (mode : r.mode = .between) :
    r.run ((Value.str s).chars ++ rest) = (r.add (.str s)).run rest := by
  have opened : r.step '"' = .ok { r with mode := .string [] } := step_between mode '"'
  rw [Value.chars_str, List.cons_append, run_of_step opened, List.append_assoc]
  have closed := run_string (r := { r with mode := .string [] }) s.toList rest rfl
  simpa [add] using closed

/-! ### Sequences -/

/-- What is read of a printed value that may stand in so many brackets. -/
def Reads (v : Value) : Prop :=
  ∀ (r : Reading) (rest : List Char),
    r.mode = .between → r.frames.length ≤ depthLimit → Apart rest →
    r.run (v.chars ++ rest) =
      if v.depth + r.frames.length ≤ depthLimit then (r.add v).run rest else .error .tooDeep

/-- States that differ in what has been read at one place, inside of so many brackets; the last
form comes first. -/
structure Collects (state : List Value → Reading) (around : ℕ) : Prop where
  mode : ∀ items, (state items).mode = .between
  frames : ∀ items, (state items).frames.length = around
  add : ∀ items v, (state items).add v = state (v :: items)

/-- The inside of a bracket. -/
def inside (forms : List Value) (b : Bracket) (frames : List Frame) (items : List Value) :
    Reading :=
  ⟨forms, .bracket b items :: frames, .between⟩

/-- Outside of all brackets. -/
def outside (forms : List Value) : Reading := ⟨forms, [], .between⟩

lemma collects_inside (forms : List Value) (b : Bracket) (frames : List Frame) :
    Collects (inside forms b frames) (frames.length + 1) :=
  ⟨fun _ => rfl, fun _ => rfl, fun _ _ => rfl⟩

lemma collects_outside : Collects outside 0 := ⟨fun _ => rfl, fun _ => rfl, fun _ _ => rfl⟩

lemma apart_close (b : Bracket) (rest : List Char) : Apart (b.close :: rest) := by
  rintro _ ⟨⟩
  cases b <;> decide

lemma apart_tailChars {vs : List Value} {rest : List Char} (apart : Apart rest) :
    Apart (Value.tailChars vs ++ rest) := by
  cases vs with
  | nil => exact apart
  | cons v vs =>
      rintro _ ⟨⟩
      decide

section Collects

variable {state : List Value → Reading} {around : ℕ} (collects : Collects state around)
  (room : around ≤ depthLimit) {rest : List Char} (apart : Apart rest)
include collects room apart

lemma run_item {v : Value} (reads : Reads v) (items : List Value) :
    (state items).run (v.chars ++ rest) =
      if v.depth + around ≤ depthLimit then (state (v :: items)).run rest else .error .tooDeep := by
  have read := reads (state items) rest (collects.mode items)
  rw [collects.frames, collects.add] at read
  exact read room apart

/-- **Values with spaces between them are read one after the other.** -/
lemma run_items {v : Value} {vs : List Value} (reads : ∀ w ∈ v :: vs, Reads w)
    (items : List Value) :
    (state items).run (v.chars ++ (Value.tailChars vs ++ rest)) =
      if ∀ w ∈ v :: vs, w.depth + around ≤ depthLimit then
        (state ((v :: vs).reverse ++ items)).run rest
      else .error .tooDeep := by
  rw [run_item collects room (apart_tailChars apart) (reads v (by simp))]
  by_cases fits : v.depth + around ≤ depthLimit
  · rw [if_pos fits]
    induction vs generalizing v items with
    | nil => simp [Value.tailChars, fits]
    | cons w vs ih =>
        have space : (state (v :: items)).step ' ' = .ok (state (v :: items)) := by
          have mode := collects.mode (v :: items)
          rw [step_between mode]
          exact congrArg Except.ok (by rw [← mode])
        have reads' : ∀ u ∈ w :: vs, Reads u := fun u hu => reads u (List.mem_cons_of_mem v hu)
        change (state (v :: items)).run (' ' :: (w.chars ++ Value.tailChars vs) ++ rest) = _
        rw [List.cons_append, run_of_step space, List.append_assoc,
          run_item collects room (apart_tailChars apart) (reads' w (by simp))]
        by_cases fits' : w.depth + around ≤ depthLimit
        · rw [if_pos fits', ih reads' (v :: items) fits']
          simp [fits]
        · simp [fits']
  · simp [fits]

end Collects

/-- Reading the closing bracket. -/
lemma run_close (r : Reading) (b : Bracket) (items : List Value) (rest : List Char) :
    (inside r.forms b r.frames items).run (b.close :: rest) =
      (r.add (b.build items.reverse)).run rest := by
  refine run_of_step ?_ rest
  cases b <;> rfl

/-- **A sequence is read back if its items are.** -/
lemma reads_build {b : Bracket} {vs : List Value} (reads : ∀ v ∈ vs, Reads v) :
    Reads (b.build vs) := by
  intro r rest mode room apart
  simp only [depth_build_add_le_iff]
  have opening : r.step b.opening = r.enter (.bracket b []) := by
    rw [step_between mode]
    cases b <;> rfl
  by_cases full : depthLimit ≤ r.frames.length
  · have refused : r.step b.opening = .error .tooDeep := by rw [opening, enter, if_pos full]
    rw [if_neg fun h => absurd full (Nat.not_le.mpr h.1)]
    cases vs with
    | nil => rw [Value.chars_build_nil, List.cons_append, run_cons, refused]; rfl
    | cons v vs => rw [Value.chars_build_cons, List.cons_append, run_cons, refused]; rfl
  have free : r.frames.length < depthLimit := Nat.not_le.mp full
  have entered : r.step b.opening = .ok (inside r.forms b r.frames []) := by
    rw [opening, enter, if_neg full]
    rfl
  cases vs with
  | nil =>
      rw [Value.chars_build_nil, List.cons_append, run_of_step entered, if_pos ⟨free, by simp⟩]
      exact run_close r b [] rest
  | cons v vs =>
      rw [Value.chars_build_cons, List.cons_append, run_of_step entered, List.append_assoc,
        List.append_assoc, List.singleton_append,
        run_items (collects_inside r.forms b r.frames) free (apart_close b rest) reads,
        List.append_nil, run_close, List.reverse_reverse]
      simp only [free, true_and]

/-! ### Atoms -/

lemma reads_token {v : Value} (token : IsToken v.chars) (value : Value.ofAtom v.chars = .ok v)
    (atom : v.depth = 0) : Reads v := by
  intro r rest mode room apart
  rw [atom, Nat.zero_add, if_pos room]
  exact run_token token value mode apart

lemma reads_str (s : String) : Reads (.str s) := by
  intro r rest mode room apart
  have flat : (Value.str s).depth = 0 := rfl
  rw [flat, Nat.zero_add, if_pos room]
  exact run_str s rest mode

end Reading

/-! ### Numbers -/

/-- The text of a float is read as the float. -/
def ReadsBack (x : Float) : Prop := Decimal.parseFloat? (floatLayout.render x).toList = some x

lemma isDelimiter_of_isDigit {c : Char} (h : c.isDigit = true) : isDelimiter c = false := by
  have range := Decimal.range_of_isDigit h
  have each : ∀ n < 58, 48 ≤ n → isDelimiter (Char.ofNat n) = false := by decide
  rw [← Char.ofNat_toNat c]
  exact each c.toNat (by omega) (by omega)

lemma isDelimiter_of_isMark {c : Char} (h : Decimal.IsMark c) : isDelimiter c = false := by
  rcases h with h | rfl | rfl | rfl
  · exact isDelimiter_of_isDigit h
  all_goals decide

/-- An atom that begins like a number is that number. -/
lemma ofAtom_number {cs : List Char}
    (digit : ((Decimal.splitSign cs).2.head?.map Char.isDigit).getD false = true) :
    Value.ofAtom cs = match Decimal.parseInt64? cs, Decimal.parseFloat? cs with
      | some n, _ => .ok (.int n)
      | none, some x => .ok (.float x)
      | none, none => .error (.invalidNumber (String.ofList cs)) := by
  have other {s : String}
      (h : ((Decimal.splitSign s.toList).2.head?.map Char.isDigit).getD false = false) :
      String.ofList cs ≠ s := by
    rintro rfl
    rw [String.toList_ofList, digit] at h
    cases h
  rw [Value.ofAtom.eq_def]
  dsimp only
  rw [if_neg (other (by decide)), if_neg (other (by decide)), if_neg (other (by decide))]
  split
  · cases digit
  · exact if_pos digit

section Signed

variable {negative : Prop} [Decidable negative] {cs : List Char}
  (led : (cs.head?.map Char.isDigit).getD false = true)
include led

/-- A digit and characters of written doubles are a token, also after a minus sign. -/
lemma isToken_signed (marks : ∀ c ∈ cs, Decimal.IsMark c) :
    IsToken ((if negative then ['-'] else []) ++ cs) := by
  have nonempty : cs ≠ [] := by
    rintro rfl
    cases led
  have undivided : ∀ c ∈ cs, isDelimiter c = false := fun c hc => isDelimiter_of_isMark (marks c hc)
  split
  · refine ⟨by simp, by simp, fun c hc => ?_⟩
    rcases List.mem_cons.mp hc with rfl | hc
    · decide
    · exact undivided c hc
  · refine ⟨nonempty, fun quoted => ?_, undivided⟩
    rw [List.nil_append] at quoted
    rw [quoted] at led
    cases led

/-- The sign of a number is split off. -/
lemma splitSign_signed :
    (Decimal.splitSign ((if negative then ['-'] else []) ++ cs)).2 = cs := by
  split
  · rfl
  · cases cs with
    | nil => cases led
    | cons c cs => rw [List.nil_append, Decimal.splitSign_of_isDigit led]

end Signed

lemma reads_int (n : Int64) : Reading.Reads (.int n) := by
  have chars : (Value.int n).chars = (toString n.toInt).toList := by
    simp [Value.chars, Value.print, Value.write]
  have digits : ∀ c ∈ Nat.toDigits 10 n.toInt.natAbs, c.isDigit = true :=
    fun c => Decimal.isDigit_of_mem_toDigits
  have led : ((Nat.toDigits 10 n.toInt.natAbs).head?.map Char.isDigit).getD false = true := by
    have nonempty : Nat.toDigits 10 n.toInt.natAbs ≠ [] := Nat.toDigits_ne_nil
    obtain ⟨c, cs, text⟩ := List.exists_cons_of_ne_nil nonempty
    rw [text]
    exact digits c (by simp [text])
  have signed := Decimal.toList_toString_int n.toInt
  refine Reading.reads_token ?_ ?_ rfl
  · rw [chars, signed]
    exact isToken_signed led fun c hc => .inl (digits c hc)
  · rw [chars, ofAtom_number (by rw [signed, splitSign_signed led]; exact led),
      Decimal.parseInt64?_toString]

lemma reads_float {x : Float} (finite : x.isFinite = true) (back : ReadsBack x) :
    Reading.Reads (.float x) := by
  obtain ⟨negative, m, q, denotes⟩ := Decimal.Double.ofFloat_of_isFinite finite
  have point : floatLayout.whole.toList = '.' :: ['0'] := rfl
  obtain ⟨cs, text, rendered⟩ :=
    Decimal.render_finite denotes point (by simp [Decimal.IsMark, Char.isDigit]) rfl
  have chars : (Value.float x).chars = (floatLayout.render x).toList := by
    simp [Value.chars, Value.print, Value.write]
  have sign : (Decimal.splitSign ((if negative then ['-'] else []) ++ cs)).2 = cs :=
    splitSign_signed text.led
  have notInt : Decimal.parseInt64? ((if negative then ['-'] else []) ++ cs) = none := by
    rw [Decimal.parseInt64?]
    split
    rename_i ds split
    obtain rfl : ds = cs := by rw [← sign, split]
    simp [text.marked]
  refine Reading.reads_token ?_ ?_ rfl
  · rw [chars, rendered]
    exact isToken_signed text.led text.marks
  · rw [chars, ofAtom_number (by rw [rendered, sign]; exact text.led), back, rendered, notInt]

/-! ### Values that are meant to be read back -/

/-- Finite floats, and the names of keywords and symbols whose text is read as that one atom. -/
def Vocabulary.readable : Vocabulary where
  floats x := x.isFinite = true
  keywords name := read (":" ++ name) = .ok [.keyword name]
  symbols name := read name = .ok [.symbol name]

namespace Value

/-- The value is built from `nil`, truth values, integers, strings, finite floats, keywords and
symbols whose text is read as that one atom, lists and vectors. -/
def Readable (v : Value) : Prop := v.Over .readable

mutual

/-- The floats in a value. -/
def floats : Value → List Float
  | float x => [x]
  | list items | vector items => floatsOfItems items
  | _ => []

/-- The floats in some values. -/
def floatsOfItems : List Value → List Float
  | [] => []
  | v :: vs => floats v ++ floatsOfItems vs

end

lemma mem_floatsOfItems {x : Float} {items : List Value} :
    x ∈ floatsOfItems items ↔ ∃ v ∈ items, x ∈ v.floats := by
  induction items with
  | nil => simp [floatsOfItems]
  | cons v items ih => simp [floatsOfItems, ih]

end Value

/-- The text of a keyword is read as the keyword. -/
lemma ofAtom_keyword (cs : List Char) :
    Value.ofAtom (':' :: cs) = .ok (.keyword (String.ofList cs)) := by
  have other {s : String} (h : s.toList.head? ≠ some ':') : String.ofList (':' :: cs) ≠ s := by
    rintro rfl
    simp at h
  rw [Value.ofAtom.eq_def]
  dsimp only
  rw [if_neg (other (by decide)), if_neg (other (by decide)), if_neg (other (by decide))]
  rfl

/-- A value over what tokens can be, with floats that are read back, is read back. -/
lemma Value.Over.reads {v : Value} (h : v.Over .tokens)
    (floats : ∀ x ∈ v.floats, x.isFinite = true ∧ ReadsBack x) : Reading.Reads v := by
  induction h with
  | nil => exact Reading.reads_token (by decide) rfl rfl
  | bool b => cases b <;> exact Reading.reads_token (by decide) rfl rfl
  | int n => exact reads_int n
  | str s => exact Reading.reads_str s
  | @float x _ =>
      have := floats x (by simp [Value.floats])
      exact reads_float this.1 this.2
  | @keyword name undivided =>
      have chars : (Value.keyword name).chars = ':' :: name.toList := by
        simp [Value.chars, Value.print, Value.write]
      have value := ofAtom_keyword name.toList
      rw [String.ofList_toList] at value
      refine Reading.reads_token ?_ (chars ▸ value) rfl
      rw [chars]
      refine ⟨by simp, by simp, fun c hc => ?_⟩
      rcases List.mem_cons.mp hc with rfl | hc
      · decide
      · exact undivided c hc
  | @symbol name token =>
      have chars : (Value.symbol name).chars = name.toList := by
        simp [Value.chars, Value.print, Value.write]
      exact Reading.reads_token (chars ▸ token.1) (chars ▸ token.2) rfl
  | list _ ih =>
      refine Reading.reads_build (b := .round) fun v hv => ih v hv fun x hx => floats x ?_
      exact mem_floatsOfItems.mpr ⟨v, hv, hx⟩
  | vector _ ih =>
      refine Reading.reads_build (b := .square) fun v hv => ih v hv fun x hx => floats x ?_
      exact mem_floatsOfItems.mpr ⟨v, hv, hx⟩

/-- The text of printed values with spaces between them. -/
lemma toList_joined (v : Value) (vs : List Value) :
    (joined Value.print (v :: vs)).toList = v.chars ++ Value.tailChars vs := by
  have from' (out : String) : (vs.foldl (fun out v => out ++ " " ++ v.print) out).toList =
      out.toList ++ Value.tailChars vs := by
    induction vs generalizing out with
    | nil => simp [Value.tailChars]
    | cons w vs ih =>
        rw [List.foldl_cons, ih]
        simp [Value.tailChars, Value.chars]
  exact from' v.print

/-- Values that are read back one by one are read back together. -/
lemma read_joined {vs : List Value} (reads : ∀ v ∈ vs, Reading.Reads v) :
    read (joined Value.print vs) =
      if ∀ v ∈ vs, v.depth ≤ depthLimit then .ok vs else .error .tooDeep := by
  cases vs with
  | nil => rfl
  | cons v vs =>
      have ended : Apart [] := by simp [Apart]
      have items := Reading.run_items Reading.collects_outside (Nat.zero_le _) ended reads []
      rw [List.append_nil, ← toList_joined] at items
      refine items.trans ?_
      simp [Reading.outside, Reading.run, Reading.steps, Reading.finish, Reading.closed, Except.bind]

lemma read_of_reads {v : Value} (reads : Reading.Reads v) :
    read v.print = if v.depth ≤ depthLimit then .ok [v] else .error .tooDeep := by
  have only : ∀ w ∈ [v], Reading.Reads w := by simpa using reads
  simpa [joined] using read_joined only

namespace Value

/-- Readable values are over what tokens can be. -/
lemma Readable.tokens {v : Value} (h : v.Readable) : v.Over .tokens := by
  induction h with
  | nil => exact .nil
  | bool b => exact .bool b
  | int n => exact .int n
  | str s => exact .str s
  | float finite => exact .float (Decimal.isNaN_of_isFinite finite)
  | keyword read => exact (read_legible read _ (by simp)).1
  | symbol read => exact (read_legible read _ (by simp)).1
  | list _ ih => exact .list ih
  | vector _ ih => exact .vector ih

lemma Readable.isFinite {v : Value} (h : v.Readable) : ∀ x ∈ v.floats, x.isFinite = true := by
  have none {x : Float} : x ∉ ([] : List Float) := List.not_mem_nil
  induction h with
  | nil | bool | int | str | keyword | symbol => exact fun x hx => absurd hx none
  | float finite =>
      intro x hx
      obtain rfl := List.mem_singleton.mp hx
      exact finite
  | list _ ih | vector _ ih =>
      intro x hx
      obtain ⟨v, hv, hx⟩ := mem_floatsOfItems.mp hx
      exact ih v hv x hx

/-- Without infinities, values over what tokens can be are readable. -/
lemma Over.readable {v : Value} (h : v.Over .tokens) (floats : ∀ x ∈ v.floats, x.isInf = false) :
    v.Readable := by
  have atom {v : Value} (h : v.Over .tokens) (none : v.floats = []) (flat : v.depth = 0) :
      read v.print = .ok [v] := by
    have reads := h.reads fun x hx => by simp [none] at hx
    rw [read_of_reads reads, flat, if_pos (Nat.zero_le _)]
  induction h with
  | nil => exact .nil
  | bool b => exact .bool b
  | int n => exact .int n
  | str s => exact .str s
  | @float x nan => exact .float (Decimal.isFinite_of_not nan (floats x (by simp [Value.floats])))
  | @keyword name undivided =>
      have text : (Value.keyword name).print = ":" ++ name := by simp [print, write]
      have alone := atom (.keyword undivided) rfl rfl
      rw [text] at alone
      exact .keyword alone
  | @symbol name token =>
      have text : (Value.symbol name).print = name := by simp [print, write]
      have alone := atom (.symbol token) rfl rfl
      rw [text] at alone
      exact .symbol alone
  | list _ ih =>
      exact .list fun v hv => ih v hv fun x hx => floats x (mem_floatsOfItems.mpr ⟨v, hv, hx⟩)
  | vector _ ih =>
      exact .vector fun v hv => ih v hv fun x hx => floats x (mem_floatsOfItems.mpr ⟨v, hv, hx⟩)

end Value

/-- **Reading and readable printing are inverse.** A readable value whose floats are read back is
read from its printed form, unless it nests too deep, and then this is the error. Forms that have
been read without infinities are readable and not too deep, and they are read again from their
printed forms with spaces between them. -/
theorem read_print :
    (∀ v : Value, v.Readable → (∀ x ∈ v.floats, ReadsBack x) →
      (v.depth ≤ depthLimit → read v.print = .ok [v]) ∧
      (depthLimit < v.depth → read v.print = .error .tooDeep)) ∧
    ∀ (code : String) (forms : List Value), read code = .ok forms →
      (∀ form ∈ forms, ∀ x ∈ form.floats, x.isInf = false) →
      (∀ form ∈ forms, form.Readable ∧ form.depth ≤ depthLimit) ∧
      ((∀ form ∈ forms, ∀ x ∈ form.floats, ReadsBack x) →
        read (joined Value.print forms) = .ok forms) := by
  constructor
  · intro v readable back
    have reads := readable.tokens.reads fun x hx => ⟨readable.isFinite x hx, back x hx⟩
    rw [read_of_reads reads]
    exact ⟨fun shallow => if_pos shallow, fun deep => if_neg (Nat.not_le.mpr deep)⟩
  · intro code forms found finite
    have legible := read_legible found
    have readable : ∀ form ∈ forms, form.Readable := fun form h =>
      (legible form h).1.readable (finite form h)
    refine ⟨fun form h => ⟨readable form h, (legible form h).2⟩, fun back => ?_⟩
    have reads : ∀ form ∈ forms, Reading.Reads form := fun form h =>
      (legible form h).1.reads fun x hx => ⟨(readable form h).isFinite x hx, back form h x hx⟩
    rw [read_joined reads, if_pos fun form h => (legible form h).2]

/-- A list with a string that has escapes, a negative integer, a float and a nested vector; and two
forms with a comment between them, one of them quoted. -/
theorem read_print_list :
    let v : Value := .list [.symbol "a'b", .str "x\"\n", .int (-5), .float 1.5,
      .vector [.keyword "k", .nil, .bool true]]
    let forms : List Value := [.list [.symbol "quote", .symbol "x"], .vector [.int 7, .str "y"]]
    (v.Readable ∧ (∀ x ∈ v.floats, ReadsBack x) ∧ read v.print = .ok [v]) ∧
      read "'x ; one\n[+7, \"y\"]" = .ok forms ∧ read (joined Value.print forms) = .ok forms := by
  intro v forms
  have readable : v.Readable := by
    refine .list fun w hw => ?_
    simp only [List.mem_cons, List.not_mem_nil, or_false] at hw
    rcases hw with rfl | rfl | rfl | rfl | rfl
    · exact .symbol rfl
    · exact .str _
    · exact .int _
    · have finite : (1.5 : Float).isFinite = true := by decide +kernel
      exact .float finite
    · refine .vector fun w hw => ?_
      simp only [List.mem_cons, List.not_mem_nil, or_false] at hw
      rcases hw with rfl | rfl | rfl
      · exact .keyword rfl
      · exact .nil
      · exact .bool true
  have back : ∀ x ∈ v.floats, ReadsBack x := by
    intro x hx
    obtain rfl : x = 1.5 := by simpa [v, Value.floats, Value.floatsOfItems] using hx
    rw [ReadsBack]
    decide +kernel
  have found : read "'x ; one\n[+7, \"y\"]" = .ok forms := by rfl
  have none {A : Float → Prop} : ∀ form ∈ forms, ∀ x ∈ form.floats, A x := by
    simp [forms, Value.floats, Value.floatsOfItems]
  exact ⟨⟨readable, back, (read_print.1 v readable back).1 (by decide)⟩, found,
    (read_print.2 _ forms found none).2 none⟩

end HostedRepl.Lisp
