/-
Values that no function can tell apart.

Two runs of the evaluator are compared through their values. The values of two
runs need not be equal: closures may be numbered otherwise, and scopes may list
their variables in another order.

* `Agree`: the same error, or results that are related.
* `Likeness`: a way to compare values, scopes and the numbers of closures;
  `Likeness.Level` compares the outermost level of two values.
* `Likeness.Faithful`: values are compared level by level, and functions by
  their numbers, one to one. Then like values have the same depth, are written
  alike and are equal to like values (`depth_eq`, `write_eq`, `equal_eq`).
* `Faithful.compute`: so built-in functions give like values; `bind_closure`:
  calls of like closures have like variables.
* `Likeness.same`: equality is one such comparison.
-/
import Mathlib.Tactic
import HostedRepl.Proofs.Lisp.Admissible

namespace HostedRepl.Lisp

/-! ### Results -/

/-- The same error, or values that are related. -/
inductive Agree {α β : Type} (P : α → β → Prop) : Except EvalError α → Except EvalError β → Prop
  | ok {a : α} {b : β} : P a b → Agree P (.ok a) (.ok b)
  | error (e : EvalError) : Agree P (.error e) (.error e)

namespace Agree

variable {α β γ δ : Type} {P : α → β → Prop} {Q : γ → δ → Prop}

lemma bind {x : Except EvalError α} {y : Except EvalError β} {f : α → Except EvalError γ}
    {g : β → Except EvalError δ} (h : Agree P x y) (rest : ∀ a b, P a b → Agree Q (f a) (g b)) :
    Agree Q (x >>= f) (y >>= g) := by
  cases h with
  | ok hab => exact rest _ _ hab
  | error e => exact .error e

lemma imp {Q : α → β → Prop} {x : Except EvalError α} {y : Except EvalError β} (h : Agree P x y)
    (weaker : ∀ a b, P a b → Q a b) : Agree Q x y := by
  cases h with
  | ok hab => exact .ok (weaker _ _ hab)
  | error e => exact .error e

/-- A result that no value is left out of agrees with itself. -/
lemma self {R : α → α → Prop} {x : Except EvalError α} (h : Yields x fun a => R a a) :
    Agree R x x := by
  cases x with
  | ok a => exact .ok (h a rfl)
  | error e => exact .error e

end Agree

/-! ### Numbers of arguments -/

/-- The number of arguments is one that the primitive takes. -/
def Primitive.takes : Primitive → ℕ → Bool
  | .mod, n | .cons, n => n == 2
  | .inc, n | .dec, n | .not, n | .isNil, n | .count, n | .first, n | .rest, n | .identity, n =>
    n == 1
  | .eq, n | .notEq, n => n != 0
  | _, _ => true

/-- Other numbers of arguments are refused, whatever the arguments are. -/
lemma Primitive.compute_of_not_takes {p : Primitive} {n : ℕ} (h : p.takes n = false) :
    ∃ b : Builtin, ∀ args, args.length = n → p.compute args = wrongArity b args := by
  refine ⟨.primitive (if p = .notEq then .eq else p), fun args length => ?_⟩
  subst length
  cases p with
  | mod | cons | inc | dec | not | isNil | count | first | rest | identity | eq | notEq =>
      rcases args with _ | ⟨a, _ | ⟨b, _ | ⟨c, args⟩⟩⟩ <;> first | rfl | cases h
  | _ => cases h

/-! ### Comparing values -/

/-- A way to compare values, scopes and the numbers of closures. -/
structure Likeness where
  value : Value → Value → Prop
  scope : Scope → Scope → Prop
  id : ℕ → ℕ → Prop

namespace Likeness

/-- The outermost level of two values is the same, and what is below it is alike. -/
inductive Level (L : Likeness) : Value → Value → Prop
  | atom {v : Value} : v.IsAtom → Level L v v
  | list {vs ws : List Value} : List.Forall₂ L.value vs ws → Level L (.list vs) (.list ws)
  | vector {vs ws : List Value} : List.Forall₂ L.value vs ws → Level L (.vector vs) (.vector ws)
  | closure {f g : Closure} : L.id f.id g.id → g.name = f.name → g.params = f.params →
      g.rest = f.rest → List.Forall₂ L.value f.body g.body → L.scope f.scope g.scope →
      g.ns = f.ns → g.depth = f.depth → Level L (.closure f) (.closure g)

/-- Values are compared level by level. -/
def Levelled (L : Likeness) : Prop := ∀ ⦃v w : Value⦄, L.value v w → L.Level v w

/-- Values are compared level by level, closures are matched one to one, and scopes are compared by
what is found in them. -/
structure Faithful (L : Likeness) : Prop where
  level : L.Levelled
  value : ∀ {v w : Value}, L.Level v w → L.value v w
  oneToOne : ∀ {m m' n n' : ℕ}, L.id m m' → L.id n n' → (m = n ↔ m' = n')
  empty : L.scope [] []
  bind : ∀ {s t : Scope} {v w : Value} (x : String), L.scope s t → L.value v w →
    L.scope ((x, v) :: s) ((x, w) :: t)
  find : ∀ {s t : Scope} (x : String), L.scope s t →
    Option.Rel L.value (s.find? x) (t.find? x)
  depth : ∀ {s t : Scope}, L.scope s t → t.depth = s.depth

/-! ### What like values have in common -/

namespace Levelled

variable {L : Likeness}

mutual

lemma depth_eq (level : L.Levelled) : ∀ {v w : Value}, L.value v w → w.depth = v.depth
  | .list vs, w, h => by
      cases level h with
      | atom ha => exact ha.elim
      | list hs => rw [Value.depth, Value.depth, deepest_eq level hs 0]
  | .vector vs, w, h => by
      cases level h with
      | atom ha => exact ha.elim
      | vector hs => rw [Value.depth, Value.depth, deepest_eq level hs 0]
  | .closure f, w, h => by
      cases level h with
      | atom ha => exact ha.elim
      | closure _ _ _ _ _ _ _ hd => exact hd
  | .nil, w, h | .bool _, w, h | .int _, w, h | .float _, w, h | .str _, w, h | .keyword _, w, h
  | .symbol _, w, h | .builtin _, w, h => by
      cases level h
      rfl

lemma deepest_eq (level : L.Levelled) : ∀ {vs ws : List Value}, List.Forall₂ L.value vs ws →
    ∀ least, Value.deepest least ws = Value.deepest least vs
  | [], ws, h, least => by
      cases h
      rfl
  | v :: vs, ws, h, least => by
      cases h with
      | cons hv hs => rw [Value.deepest, Value.deepest, depth_eq level hv, deepest_eq level hs]

end

end Levelled

namespace Faithful

variable {L : Likeness}

section

variable (F : L.Faithful) {v w : Value} {vs ws : List Value}
include F

lemma atom (h : v.IsAtom) : L.value v v := F.value (.atom h)

lemma list (h : List.Forall₂ L.value vs ws) : L.value (.list vs) (.list ws) := F.value (.list h)

lemma vector (h : List.Forall₂ L.value vs ws) : L.value (.vector vs) (.vector ws) :=
  F.value (.vector h)

lemma eq_of_atom (h : L.value v w) (atom : v.IsAtom) : w = v := by
  cases F.level h with
  | atom => rfl
  | list | vector | closure => exact atom.elim

lemma kind_eq (h : L.value v w) : w.kind = v.kind := by
  cases F.level h <;> rfl

lemma isTruthy_eq (h : L.value v w) : w.isTruthy = v.isTruthy := by
  cases F.level h <;> rfl

lemma depth_eq (h : L.value v w) : w.depth = v.depth := F.level.depth_eq h

/-- Like values are like sequences. -/
lemma seq (h : L.value v w) : Option.Rel (List.Forall₂ L.value) v.seq? w.seq? := by
  cases F.level h with
  | atom ha =>
      cases v with
      | nil => exact .some .nil
      | list | vector | closure => exact ha.elim
      | _ => exact .none
  | list hs | vector hs => exact .some hs
  | closure => exact .none

end

mutual

lemma write_eq (F : L.Faithful) (readably : Bool) : ∀ {v w : Value}, L.value v w →
    ∀ out, w.write readably out = v.write readably out
  | .list vs, w, h, out => by
      cases F.level h with
      | atom ha => exact ha.elim
      | list hs =>
          cases hs with
          | nil => rfl
          | @cons v w vs ws hv hs =>
              rw [Value.write, Value.write, write_eq F readably hv, writeTail_eq F readably hs]
  | .vector vs, w, h, out => by
      cases F.level h with
      | atom ha => exact ha.elim
      | vector hs =>
          cases hs with
          | nil => rfl
          | @cons v w vs ws hv hs =>
              rw [Value.write, Value.write, write_eq F readably hv, writeTail_eq F readably hs]
  | .closure f, w, h, out => by
      cases F.level h with
      | atom ha => exact ha.elim
      | closure _ hn => rw [Value.write, Value.write, hn]
  | .nil, w, h, out | .bool _, w, h, out | .int _, w, h, out | .float _, w, h, out
  | .str _, w, h, out | .keyword _, w, h, out | .symbol _, w, h, out | .builtin _, w, h, out => by
      rw [F.eq_of_atom h trivial]

lemma writeTail_eq (F : L.Faithful) (readably : Bool) : ∀ {vs ws : List Value},
    List.Forall₂ L.value vs ws →
    ∀ out, Value.writeTail readably ws out = Value.writeTail readably vs out
  | [], ws, h, out => by
      cases h
      rfl
  | v :: vs, ws, h, out => by
      cases h with
      | cons hv hs =>
          rw [Value.writeTail, Value.writeTail, write_eq F readably hv, writeTail_eq F readably hs]

end

mutual

/-- Like values are equal to like values. -/
lemma equal_eq (F : L.Faithful) : ∀ {v v' w w' : Value}, L.value v v' → L.value w w' →
    v'.equal w' = v.equal w
  | .list vs, v', w, w', hv, hw => by
      cases F.level hv with
      | atom ha => exact ha.elim
      | list hvs =>
          cases F.level hw with
          | atom ha => cases w <;> first | rfl | exact ha.elim
          | list hws | vector hws =>
              rw [Value.equal, Value.equal]
              exact equalItems_eq F hvs hws
          | closure => rfl
  | .vector vs, v', w, w', hv, hw => by
      cases F.level hv with
      | atom ha => exact ha.elim
      | vector hvs =>
          cases F.level hw with
          | atom ha => cases w <;> first | rfl | exact ha.elim
          | list hws | vector hws =>
              rw [Value.equal, Value.equal]
              exact equalItems_eq F hvs hws
          | closure => rfl
  | .closure f, v', w, w', hv, hw => by
      cases F.level hv with
      | atom ha => exact ha.elim
      | closure hf =>
          cases F.level hw with
          | atom ha => cases w <;> first | rfl | exact ha.elim
          | list | vector => rfl
          | closure hg =>
              rw [Value.equal, Value.equal, Bool.eq_iff_iff, beq_iff_eq, beq_iff_eq]
              exact (F.oneToOne hf hg).symm
  | .nil, v', w, w', hv, hw | .bool _, v', w, w', hv, hw | .int _, v', w, w', hv, hw
  | .float _, v', w, w', hv, hw | .str _, v', w, w', hv, hw | .keyword _, v', w, w', hv, hw
  | .symbol _, v', w, w', hv, hw | .builtin _, v', w, w', hv, hw => by
      rw [F.eq_of_atom hv trivial]
      cases F.level hw <;> rfl

lemma equalItems_eq (F : L.Faithful) : ∀ {vs vs' ws ws' : List Value},
    List.Forall₂ L.value vs vs' → List.Forall₂ L.value ws ws' →
    Value.equalItems vs' ws' = Value.equalItems vs ws
  | [], vs', ws, ws', hvs, hws => by
      cases hvs
      cases hws <;> rfl
  | v :: vs, vs', ws, ws', hvs, hws => by
      cases hvs with
      | cons hv hvs =>
          cases hws with
          | nil => rfl
          | cons hw hws =>
              rw [Value.equalItems, Value.equalItems, equal_eq F hv hw, equalItems_eq F hvs hws]

end

section

variable (F : L.Faithful) {v w : Value} {vs ws : List Value}
include F

lemma bounded (h : L.value v w) : Agree L.value v.bounded w.bounded := by
  rw [Value.bounded, Value.bounded, F.depth_eq h]
  split
  · exact .error _
  · exact .ok h

lemma seqArg (b : Builtin) (h : L.value v w) :
    Agree (List.Forall₂ L.value) (seqArg b v) (seqArg b w) := by
  rw [Lisp.seqArg, Lisp.seqArg, F.kind_eq h]
  cases hv : v.seq? <;> cases hw : w.seq? <;> have both := F.seq h <;> rw [hv, hw] at both
  · exact .error _
  · cases both
  · cases both
  · cases both with
    | some hs => exact .ok hs

/-! ### Primitives -/

lemma ofValue_eq (p : Primitive) (h : L.value v w) : Num.ofValue p w = Num.ofValue p v := by
  cases F.level h <;> rfl

lemma intArg_eq (p : Primitive) (h : L.value v w) : intArg p w = intArg p v := by
  cases F.level h <;> rfl

lemma fold_eq (p : Primitive) (op : Num → Num → Except EvalError Num) (acc : Num)
    (h : List.Forall₂ L.value vs ws) : Num.fold p op acc ws = Num.fold p op acc vs := by
  induction h generalizing acc with
  | nil => rfl
  | cons hv _ ih => simp only [Num.fold, F.ofValue_eq p hv, ih]

omit F in
lemma mapM_eq {α : Type} {f : Value → Except EvalError α}
    (same : ∀ v w, L.value v w → f w = f v) (h : List.Forall₂ L.value vs ws) :
    ws.mapM f = vs.mapM f := by
  induction h with
  | nil => rfl
  | cons hv _ ih => rw [List.mapM_cons, List.mapM_cons, same _ _ hv, ih]

lemma neighbours_eq (h : List.Forall₂ L.value vs ws) :
    neighbours Value.equal ws = neighbours Value.equal vs := by
  induction h with
  | nil => rfl
  | cons hv rest ih =>
      cases rest with
      | nil => rfl
      | cons hw _ => rw [neighbours, neighbours, F.equal_eq hv hw, ih]

omit F in
lemma foldl_eq {α : Type} {f : α → Value → α} (same : ∀ a v w, L.value v w → f a w = f a v)
    (h : List.Forall₂ L.value vs ws) (a : α) : ws.foldl f a = vs.foldl f a := by
  induction h generalizing a with
  | nil => rfl
  | cons hv _ ih => rw [List.foldl_cons, List.foldl_cons, same _ _ _ hv, ih]

omit F in
lemma joined_eq {render : Value → String} (same : ∀ v w, L.value v w → render w = render v)
    (h : List.Forall₂ L.value vs ws) : joined render ws = joined render vs := by
  cases h with
  | nil => rfl
  | cons hv hs =>
      rw [joined, joined, same _ _ hv]
      exact foldl_eq (fun out v w h => by rw [same v w h]) hs _

lemma print_eq (h : L.value v w) : w.print = v.print := F.write_eq true h ""

lemma display_eq (h : L.value v w) : w.display = v.display := F.write_eq false h ""

lemma printed_eq (p : Primitive) (h : List.Forall₂ L.value vs ws) :
    p.printed ws = p.printed vs := by
  have shown := joined_eq (fun _ _ hv => F.display_eq hv) h
  have readable := joined_eq (fun _ _ hv => F.print_eq hv) h
  cases p <;> simp only [Primitive.printed, shown, readable]

/-- Texts that arguments are added to one after the other. -/
lemma text {f : String → Value → String} (same : ∀ out v w, L.value v w → f out w = f out v)
    (h : List.Forall₂ L.value vs ws) (out : String) :
    Agree L.value (.ok (.str (vs.foldl f out))) (.ok (.str (ws.foldl f out))) := by
  rw [foldl_eq same h]
  exact .ok (F.atom trivial)

/-- A number as a value agrees with itself. -/
lemma number (x : Except EvalError Num) :
    Agree L.value (x.map Num.toValue) (x.map Num.toValue) := by
  cases x with
  | ok n => cases n <;> exact .ok (F.atom trivial)
  | error e => exact .error e

lemma difference (h : List.Forall₂ L.value vs ws) :
    Agree L.value (difference vs) (difference ws) := by
  cases h with
  | nil => exact .error _
  | @cons v w vs ws hv hs =>
      cases hs with
      | nil =>
          rw [Lisp.difference, Lisp.difference, F.fold_eq _ _ _ (.cons hv .nil)]
          exact F.number _
      | cons hv' hs =>
          simp only [Lisp.difference, F.ofValue_eq _ hv, F.fold_eq _ _ _ (.cons hv' hs)]
          exact .bind (.self fun n _ => rfl) fun m n (same : m = n) => same ▸ F.number _

lemma ratio (h : List.Forall₂ L.value vs ws) : Agree L.value (ratio vs) (ratio ws) := by
  cases h with
  | nil => exact .error _
  | @cons v w vs ws hv hs =>
      cases hs with
      | nil =>
          rw [Lisp.ratio, Lisp.ratio, F.fold_eq _ _ _ (.cons hv .nil)]
          exact F.number _
      | cons hv' hs =>
          simp only [Lisp.ratio, F.ofValue_eq _ hv, F.fold_eq _ _ _ (.cons hv' hs)]
          exact .bind (.self fun n _ => rfl) fun m n (same : m = n) => same ▸ F.number _

lemma compareChain (p : Primitive) (exact' : Int → Int → Bool) (rounded : Float → Float → Bool)
    (h : List.Forall₂ L.value vs ws) :
    Agree L.value (compareChain p exact' rounded vs) (compareChain p exact' rounded ws) := by
  have nums : numbers p ws = numbers p vs := mapM_eq (fun _ _ hv => F.ofValue_eq p hv) h
  cases h with
  | nil => exact .error _
  | cons hv hs =>
      rw [Lisp.compareChain, Lisp.compareChain, nums]
      exact .bind (.self fun n _ => rfl) fun m n (same : m = n) => same ▸ .ok (F.atom trivial)

lemma range (h : List.Forall₂ L.value vs ws) : Agree L.value (range vs) (range ws) := by
  have items (start stop step : Int) :
      Agree L.value (Value.list <$> rangeItems start stop step)
        (Value.list <$> rangeItems start stop step) := by
    fun_cases rangeItems start stop step with
    | case1 => exact .error _
    | case2 => exact .error _
    | case3 =>
        refine .ok (F.list (List.forall₂_same.mpr fun v hv => ?_))
        obtain ⟨k, -, rfl⟩ := List.mem_map.mp hv
        exact F.atom trivial
  have bounds : ws.mapM (intArg .range) = vs.mapM (intArg .range) :=
    mapM_eq (fun _ _ hv => F.intArg_eq .range hv) h
  have empty : ws.isEmpty = vs.isEmpty := by cases h <;> rfl
  rw [Lisp.range, Lisp.range, h.length_eq, empty, bounds]
  split
  · rw [wrongArity, wrongArity, h.length_eq]
    exact .error _
  · refine .bind (.self fun n _ => rfl) fun m n (same : m = n) => ?_
    subst same
    split <;> exact items _ _ _

lemma conjoin (h : List.Forall₂ L.value vs ws) : Agree L.value (conjoin vs) (conjoin ws) := by
  cases h with
  | nil => exact .error _
  | @cons v w vs ws hv hs =>
      have sequence : Agree L.value
          (Lisp.seqArg (.primitive .conj) v >>= fun items => return .list (vs.reverse ++ items))
          (Lisp.seqArg (.primitive .conj) w >>= fun items => return .list (ws.reverse ++ items)) :=
        .bind (F.seqArg _ hv) fun items items' hi =>
          .ok (F.list (List.rel_append (List.forall₂_reverse_iff.mpr hs) hi))
      cases F.level hv with
      | vector hi => exact .ok (F.vector (List.rel_append hi hs))
      | atom ha => cases v <;> first | exact sequence | exact ha.elim
      | list | closure => exact sequence

lemma countItems (h : L.value v w) : countItems w = countItems v := by
  have sequence : List.length <$> Lisp.seqArg (.primitive .count) w =
      List.length <$> Lisp.seqArg (.primitive .count) v := by
    have both := F.seqArg (.primitive .count) h
    cases hv : Lisp.seqArg (.primitive .count) v <;> cases hw : Lisp.seqArg (.primitive .count) w <;>
      rw [hv, hw] at both <;> cases both
    · rfl
    · rename_i hs
      exact congrArg Except.ok hs.length_eq.symm
  cases F.level h with
  | atom ha => rfl
  | list | vector | closure => exact sequence

omit F in
lemma exists_single (h : List.Forall₂ L.value vs ws) (one : (vs.length == 1) = true) :
    ∃ v w, L.value v w ∧ vs = [v] ∧ ws = [w] := by
  rcases h with _ | ⟨hv, _ | ⟨hw, hs⟩⟩
  · cases one
  · exact ⟨_, _, hv, rfl, rfl⟩
  · cases one

omit F in
lemma exists_pair (h : List.Forall₂ L.value vs ws) (two : (vs.length == 2) = true) :
    ∃ v w v' w', L.value v w ∧ L.value v' w' ∧ vs = [v, v'] ∧ ws = [w, w'] := by
  rcases h with _ | ⟨hv, _ | ⟨hv', _ | ⟨hw, hs⟩⟩⟩
  · cases two
  · cases two
  · exact ⟨_, _, _, _, hv, hv', rfl, rfl⟩
  · cases two

/-- **Primitives compute alike** from like arguments. -/
theorem compute (p : Primitive) (h : List.Forall₂ L.value vs ws) :
    Agree L.value (p.compute vs) (p.compute ws) := by
  -- what is computed from the same numbers
  have numbers {α : Type} (x : Except EvalError α) (f : α → Except EvalError Num) :
      Agree L.value (x >>= fun a => (f a).map Num.toValue)
        (x >>= fun a => (f a).map Num.toValue) :=
    .bind (.self fun a _ => rfl) fun a b (same : a = b) => same ▸ F.number _
  cases taken : p.takes vs.length with
  | false =>
      obtain ⟨b, refused⟩ := Primitive.compute_of_not_takes taken
      rw [refused vs rfl, refused ws h.length_eq.symm, wrongArity, wrongArity, h.length_eq]
      exact .error _
  | true =>
    cases p with
    | add =>
        rw [Primitive.compute, Primitive.compute, sum, sum, F.fold_eq _ _ _ h]
        exact F.number _
    | mul =>
        rw [Primitive.compute, Primitive.compute, product, product, F.fold_eq _ _ _ h]
        exact F.number _
    | sub => exact F.difference h
    | div => exact F.ratio h
    | mod =>
        obtain ⟨v, w, v', w', hv, hv', rfl, rfl⟩ := exists_pair h taken
        simp only [Primitive.compute, F.ofValue_eq _ hv, F.ofValue_eq _ hv']
        exact .bind (.self fun m _ => rfl) fun m n (same : m = n) => same ▸ numbers _ _
    | inc | dec =>
        obtain ⟨v, w, hv, rfl, rfl⟩ := exists_single h taken
        simp only [Primitive.compute, F.ofValue_eq _ hv]
        exact numbers _ _
    | eq | notEq =>
        have same := F.neighbours_eq h
        cases h with
        | nil => cases taken
        | cons =>
            rw [Primitive.compute, Primitive.compute, same]
            exact .ok (F.atom trivial)
    | lt | gt | le | ge => exact F.compareChain _ _ _ h
    | not =>
        obtain ⟨v, w, hv, rfl, rfl⟩ := exists_single h taken
        rw [Primitive.compute, Primitive.compute, F.isTruthy_eq hv]
        exact .ok (F.atom trivial)
    | isNil =>
        obtain ⟨v, w, hv, rfl, rfl⟩ := exists_single h taken
        cases F.level hv with
        | atom => exact .ok (F.atom trivial)
        | list | vector | closure => exact .ok (F.atom trivial)
    | str =>
        refine F.text (fun out v w hv => ?_) h ""
        have same := F.write_eq false hv out
        cases F.level hv with
        | atom => rfl
        | list | vector | closure => exact same
    | prStr =>
        rw [Primitive.compute, Primitive.compute, joined_eq (fun _ _ hv => F.print_eq hv) h]
        exact .ok (F.atom trivial)
    | print | println | prn => exact .ok (F.atom trivial)
    | list => exact .ok (F.list h)
    | vector => exact .ok (F.vector h)
    | count =>
        obtain ⟨v, w, hv, rfl, rfl⟩ := exists_single h taken
        simp only [Primitive.compute, F.countItems hv]
        refine .bind (.self fun n _ => rfl) fun m n (same : m = n) => ?_
        subst same
        split
        · exact .ok (F.atom trivial)
        · exact .error _
    | first =>
        obtain ⟨v, w, hv, rfl, rfl⟩ := exists_single h taken
        refine .bind (F.seqArg _ hv) fun items items' hi => ?_
        cases hi with
        | nil => exact .ok (F.atom trivial)
        | cons hv => exact .ok hv
    | rest =>
        obtain ⟨v, w, hv, rfl, rfl⟩ := exists_single h taken
        refine .bind (F.seqArg _ hv) fun items items' hi => ?_
        cases hi with
        | nil => exact .ok (F.list .nil)
        | cons _ hi => exact .ok (F.list hi)
    | cons =>
        obtain ⟨v, w, v', w', hv, hv', rfl, rfl⟩ := exists_pair h taken
        exact .bind (F.seqArg _ hv') fun items items' hi => .ok (F.list (.cons hv hi))
    | conj => exact F.conjoin h
    | range => exact F.range h
    | identity =>
        obtain ⟨v, w, hv, rfl, rfl⟩ := exists_single h taken
        exact .ok hv

end

end Faithful

/-! ### Variables of a call -/

/-- Like variables under the same names. -/
abbrev Vars (L : Likeness) : Table Value → Table Value → Prop :=
  List.Forall₂ fun a b => b.1 = a.1 ∧ L.value a.2 b.2

namespace Vars

variable {L : Likeness} {vars vars' : Table Value}

lemma set (h : L.Vars vars vars') (name : String) {v w : Value} (hv : L.value v w) :
    L.Vars (vars.set name v) (vars'.set name w) := by
  induction h with
  | nil => exact .cons ⟨rfl, hv⟩ .nil
  | @cons a b vars vars' hab rest ih =>
      obtain ⟨x, u⟩ := a
      obtain ⟨y, u'⟩ := b
      obtain ⟨rfl, hu⟩ := hab
      rw [Table.set, Table.set]
      split
      · exact .cons ⟨rfl, hv⟩ rest
      · exact .cons ⟨rfl, hu⟩ ih

lemma find (h : L.Vars vars vars') (name : String) :
    Option.Rel L.value (vars.find? name) (vars'.find? name) := by
  induction h with
  | nil => exact .none
  | @cons a b vars vars' hab rest ih =>
      obtain ⟨x, u⟩ := a
      obtain ⟨y, u'⟩ := b
      obtain ⟨rfl, hu⟩ := hab
      rw [Table.find?_cons, Table.find?_cons]
      split
      · exact .some hu
      · exact ih

lemma bindParams (h : L.Vars vars vars') (params : List String) {vs ws : List Value}
    (hs : List.Forall₂ L.value vs ws) :
    L.Vars (bindParams vars params vs) (bindParams vars' params ws) := by
  induction params generalizing vars vars' vs ws with
  | nil => simpa only [Lisp.bindParams] using h
  | cons p params ih =>
      cases hs with
      | nil => simpa only [Lisp.bindParams] using h
      | cons hv hs =>
          rw [Lisp.bindParams, Lisp.bindParams]
          exact ih (h.set p hv) hs

/-- Like variables in front of like scopes. -/
lemma scope (F : L.Faithful) (h : L.Vars vars vars') {s t : Scope} (hs : L.scope s t) :
    L.scope (vars ++ s) (vars' ++ t) := by
  induction h with
  | nil => exact hs
  | @cons a b vars vars' hab _ ih =>
      obtain ⟨x, v⟩ := a
      obtain ⟨y, w⟩ := b
      obtain ⟨rfl, hv⟩ := hab
      exact F.bind _ ih hv

end Vars

namespace Faithful

variable {L : Likeness} (F : L.Faithful) {v w : Value} {vs ws : List Value}
include F

/-- Like closures take the same numbers of arguments. -/
lemma accepts_eq {f g : Closure} (h : L.value (.closure f) (.closure g)) (n : ℕ) :
    g.accepts n = f.accepts n := by
  cases F.level h with
  | atom => rfl
  | closure _ _ hp hr => rw [Closure.accepts, Closure.accepts, hp, hr]

/-- Like closures bind like arguments to like variables. -/
lemma bind_closure {f g : Closure} (h : L.value (.closure f) (.closure g))
    (hs : List.Forall₂ L.value vs ws) : Agree L.Vars (f.bind vs) (g.bind ws) := by
  obtain ⟨hn, hp, hr⟩ : g.name = f.name ∧ g.params = f.params ∧ g.rest = f.rest := by
    cases F.level h with
    | atom => exact ⟨rfl, rfl, rfl⟩
    | closure _ hn hp hr => exact ⟨hn, hp, hr⟩
  have params : L.Vars (bindParams [] f.params vs) (bindParams [] f.params ws) :=
    Vars.bindParams .nil f.params hs
  have given {vars vars' : Table Value} (h : L.Vars vars vars') :
      Agree L.Vars (pure vars) (pure vars') := .ok h
  have extra := List.forall₂_drop f.params.length hs
  rw [Closure.bind, Closure.bind, hr, hn, hp]
  generalize vs.drop f.params.length = more at extra ⊢
  generalize ws.drop f.params.length = more' at extra ⊢
  cases f.rest
  case' none => refine .bind (given params) fun vars vars' hvars => ?_
  case' some rest =>
    cases extra
    case' nil =>
      refine .bind (given (params.set rest (F.atom trivial))) fun vars vars' hvars => ?_
    case' cons hv more =>
      refine .bind (F.bounded (F.list (.cons hv more))) fun u u' hu => ?_
      refine .bind (given (params.set rest hu)) fun vars vars' hvars => ?_
  -- whatever the rest is, the closure's own name comes last
  all_goals
    cases f.name with
    | none => exact .ok hvars
    | some name =>
        have found := hvars.find name
        dsimp only
        generalize vars.find? name = v at found ⊢
        generalize vars'.find? name = w at found ⊢
        cases found with
        | some => exact .ok hvars
        | none => exact .ok (hvars.set name h)

/-! ### Forms -/

/-- Like values are the same symbol, or neither is one. -/
lemma symbol_or (h : L.value v w) :
    (∃ name, v = .symbol name ∧ w = .symbol name) ∨
      (∀ name, v ≠ .symbol name) ∧ ∀ name, w ≠ .symbol name := by
  cases F.level h with
  | atom =>
      cases v with
      | symbol name => exact .inl ⟨name, rfl, rfl⟩
      | _ => exact .inr ⟨nofun, nofun⟩
  | list | vector | closure => exact .inr ⟨nofun, nofun⟩

lemma eq_symbol_iff (h : L.value v w) (name : String) : w = .symbol name ↔ v = .symbol name := by
  cases F.level h with
  | atom => exact Iff.rfl
  | list | vector | closure => exact ⟨nofun, nofun⟩

/-- Like parameter vectors have the same parameters. -/
lemma parseParams_eq (h : List.Forall₂ L.value vs ws) : parseParams ws = parseParams vs := by
  induction h with
  | nil => rfl
  | @cons v w vs ws hv hs ih =>
      obtain ⟨name, rfl, rfl⟩ | ⟨notSymbol, notSymbol'⟩ := F.symbol_or hv
      · by_cases rest : name = "&"
        · subst rest
          rcases hs with _ | ⟨hu, _ | ⟨hu', hs⟩⟩
          · rfl
          · cases F.level hu <;> rfl
          · cases F.level hu <;> cases F.level hu' <;> simp [parseParams]
        · rw [parseParams, parseParams, ih] <;> simpa using rest
      · cases F.level hv with
        | atom => cases v <;> first | rfl | exact absurd rfl (notSymbol _)
        | list | vector | closure => rfl

lemma specialHead?_eq (h : L.value v w) : specialHead? w = specialHead? v := by
  cases F.level h <;> rfl

end Faithful

/-! ### Equality -/

/-- Only equal things are alike. -/
def same : Likeness := ⟨Eq, Eq, Eq⟩

lemma same_option (v : Option Value) : Option.Rel same.value v v := by
  cases v with
  | none => exact .none
  | some v => exact .some rfl

lemma same_faithful : same.Faithful where
  level {v w} h := by
    have itself (vs : List Value) : List.Forall₂ same.value vs vs :=
      List.forall₂_same.mpr fun _ _ => rfl
    obtain rfl : v = w := h
    cases v with
    | list vs => exact .list (itself vs)
    | vector vs => exact .vector (itself vs)
    | closure f => exact .closure rfl rfl rfl rfl (itself f.body) rfl rfl rfl
    | _ => exact .atom trivial
  value {v w} h := by
    have equal {vs ws : List Value} (h : List.Forall₂ same.value vs ws) : vs = ws :=
      List.forall₂_eq_eq_eq ▸ h
    cases h with
    | atom => exact rfl
    | list h => exact congrArg Value.list (equal h)
    | vector h => exact congrArg Value.vector (equal h)
    | @closure f g hid hname hparams hrest hbody hscope hns hdepth =>
        obtain ⟨id, name, params, rest, body, scope, ns, depth⟩ := f
        obtain ⟨id', name', params', rest', body', scope', ns', depth'⟩ := g
        obtain rfl : id = id' := hid
        obtain rfl : scope = scope' := hscope
        obtain rfl : body = body' := equal hbody
        cases hname
        cases hparams
        cases hrest
        cases hns
        cases hdepth
        rfl
  oneToOne := by
    rintro m _ n _ rfl rfl
    rfl
  empty := rfl
  bind := by
    rintro s _ v _ x rfl rfl
    rfl
  find := by
    rintro s _ x rfl
    exact same_option _
  depth := by
    rintro s _ rfl
    rfl

end Likeness

end HostedRepl.Lisp
