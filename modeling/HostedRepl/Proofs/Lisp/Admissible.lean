/-
Classes of values that evaluation does not leave.

* `Yields`: what a result satisfies, if there is one.
* `Admissible`: a class that has all atoms, the parts of its members, and
  those lists, vectors and closures of members that do not nest too deep.
* `Composite`: the same but for closures; `Composite.compute`, `Composite.bind`:
  built-in functions and the variables of a call stay in the class.
* `makeClosure_cases`: what making a closure does.
* `Interp.Holds`: all global variables are in the class; the lemmas `Holds.…`
  say what keeps it so.
-/
import HostedRepl.Lisp.Eval
import HostedRepl.Proofs.Lisp.Dialogue

namespace HostedRepl.Lisp

/-! ### Results -/

/-- The result is in `P`, if there is one. -/
def Yields {α : Type} (x : Except EvalError α) (P : α → Prop) : Prop := ∀ a, x = .ok a → P a

section Yields

variable {α β : Type} {P : α → Prop} {Q : β → Prop}

lemma yields_ok {a : α} (h : P a) : Yields (.ok a) P := by
  rintro _ ⟨⟩
  exact h

lemma yields_error (e : EvalError) : Yields (.error e) P := by
  rintro _ ⟨⟩

lemma yields_bind {x : Except EvalError α} {f : α → Except EvalError β} (h : Yields x P)
    (rest : ∀ a, P a → Yields (f a) Q) : Yields (x >>= f) Q := by
  cases x with
  | ok a => exact rest a (h a rfl)
  | error e => exact yields_error e

lemma yields_map {x : Except EvalError α} {f : α → β} (h : Yields x fun a => Q (f a)) :
    Yields (x.map f) Q := by
  cases x with
  | ok a => exact yields_ok (h a rfl)
  | error e => exact yields_error e

lemma yields_any (x : Except EvalError α) : Yields x fun _ => True := fun _ _ => trivial

lemma yields_wrongArity (b : Builtin) (args : List Value) : Yields (wrongArity b args) P :=
  yields_error _

end Yields

/-! ### Variables -/

lemma all_set {α : Type} {P : α → Prop} {t : Table α} {name : String} {a : α}
    (ht : ∀ x ∈ t, P x.2) (ha : P a) : ∀ x ∈ t.set name a, P x.2 := by
  induction t with
  | nil =>
      intro x hx
      obtain rfl := List.mem_singleton.mp hx
      exact ha
  | cons e t ih =>
      intro x hx
      rw [Table.set] at hx
      have others := fun x hx => ht x (List.mem_cons_of_mem e hx)
      split at hx
      · rcases List.mem_cons.mp hx with rfl | hx
        · exact ha
        · exact others x hx
      · rcases List.mem_cons.mp hx with rfl | hx
        · exact ht _ (by simp)
        · exact ih others x hx

lemma mem_of_find? {α : Type} {t : Table α} {name : String} {a : α}
    (h : t.find? name = some a) : (name, a) ∈ t := by
  obtain ⟨before, after, rfl, -⟩ := List.lookup_eq_some_iff.mp h
  simp

/-! ### Values -/

/-- The value has no parts: it is no list, no vector and no closure. -/
def Value.IsAtom : Value → Prop
  | list _ | vector _ | closure _ => False
  | _ => True

/-- A class of values that has the atoms, the parts of its members, and the lists, vectors and
closures of its members that do not nest too deep. -/
structure Admissible (V : Value → Prop) : Prop where
  atom : ∀ v : Value, v.IsAtom → V v
  list : ∀ items : List Value, (∀ v ∈ items, V v) → (Value.list items).depth ≤ depthLimit →
    V (.list items)
  vector : ∀ items : List Value, (∀ v ∈ items, V v) → (Value.vector items).depth ≤ depthLimit →
    V (.vector items)
  closure : ∀ f : Closure, (∀ x ∈ f.scope, V x.2) → (∀ form ∈ f.body, V form) →
    f.depth = 1 + Scope.depth f.scope → f.depth ≤ depthLimit → V (.closure f)
  items : ∀ (v : Value) (items : List Value), V v → v.seq? = some items → ∀ w ∈ items, V w
  scope : ∀ f : Closure, V (.closure f) → ∀ x ∈ f.scope, V x.2
  body : ∀ f : Closure, V (.closure f) → ∀ form ∈ f.body, V form

/-- All values together. -/
lemma admissible_all : Admissible fun _ => True := by
  constructor <;> intros <;> trivial

/-- Such a class, which need not have all closures of its members. -/
structure Composite (V : Value → Prop) : Prop where
  atom : ∀ v : Value, v.IsAtom → V v
  list : ∀ items : List Value, (∀ v ∈ items, V v) → (Value.list items).depth ≤ depthLimit →
    V (.list items)
  vector : ∀ items : List Value, (∀ v ∈ items, V v) → (Value.vector items).depth ≤ depthLimit →
    V (.vector items)
  items : ∀ (v : Value) (items : List Value), V v → v.seq? = some items → ∀ w ∈ items, V w
  scope : ∀ f : Closure, V (.closure f) → ∀ x ∈ f.scope, V x.2
  body : ∀ f : Closure, V (.closure f) → ∀ form ∈ f.body, V form

lemma Admissible.composite {V : Value → Prop} (adm : Admissible V) : Composite V :=
  ⟨adm.atom, adm.list, adm.vector, adm.items, adm.scope, adm.body⟩

/-- A member of the class, or a list or vector of members at whatever depth. -/
inductive Built (V : Value → Prop) : Value → Prop
  | member {v : Value} : V v → Built V v
  | list {items : List Value} : (∀ v ∈ items, V v) → Built V (.list items)
  | vector {items : List Value} : (∀ v ∈ items, V v) → Built V (.vector items)

lemma Built.mono {V W : Value → Prop} {v : Value} (h : Built V v) (le : ∀ v, V v → W v) :
    Built W v := by
  cases h with
  | member h => exact .member (le v h)
  | list h => exact .list fun w hw => le w (h w hw)
  | vector h => exact .vector fun w hw => le w (h w hw)

namespace Composite

variable {V : Value → Prop} (comp : Composite V)
include comp

/-- The check of the depth brings a built value back into the class. -/
lemma bounded {v : Value} (h : Built V v) : Yields v.bounded V := by
  intro w hw
  rw [Value.bounded] at hw
  split at hw
  · cases hw
  · cases hw
    cases h with
    | member h => exact h
    | list h => exact comp.list _ h (by omega)
    | vector h => exact comp.vector _ h (by omega)

lemma seqArg (b : Builtin) {v : Value} (h : V v) :
    Yields (seqArg b v) fun items => ∀ w ∈ items, V w := by
  intro items found
  rw [Lisp.seqArg] at found
  split at found
  · rename_i items' seq
    cases found
    exact comp.items v items h seq
  · cases found

lemma number (n : Num) : Built V n.toValue := by
  cases n <;> exact .member (comp.atom _ trivial)

lemma numbers {x : Except EvalError Num} : Yields (x.map Num.toValue) (Built V) :=
  yields_map fun n _ => comp.number n

lemma difference (args : List Value) : Yields (difference args) (Built V) := by
  fun_cases Lisp.difference args with
  | case1 => exact yields_error _
  | case2 v => exact comp.numbers
  | case3 v vs => exact yields_bind (yields_any _) fun _ _ => comp.numbers

lemma ratio (args : List Value) : Yields (ratio args) (Built V) := by
  fun_cases Lisp.ratio args with
  | case1 => exact yields_error _
  | case2 v => exact comp.numbers
  | case3 v vs => exact yields_bind (yields_any _) fun _ _ => comp.numbers

lemma compareChain (p : Primitive) (exact' : Int → Int → Bool) (rounded : Float → Float → Bool)
    (args : List Value) : Yields (compareChain p exact' rounded args) (Built V) := by
  rw [Lisp.compareChain]
  split
  · exact yields_error _
  · exact yields_bind (yields_any _) fun _ _ => yields_ok (.member (comp.atom _ trivial))

lemma range (args : List Value) : Yields (range args) (Built V) := by
  have items (start stop step : Int) :
      Yields (Value.list <$> rangeItems start stop step) (Built V) := by
    refine yields_map ?_
    fun_cases rangeItems start stop step with
    | case1 => exact yields_error _
    | case2 => exact yields_error _
    | case3 =>
        refine yields_ok (.list fun v hv => ?_)
        obtain ⟨k, -, rfl⟩ := List.mem_map.mp hv
        exact comp.atom _ trivial
  rw [Lisp.range]
  split
  · exact yields_error _
  · refine yields_bind (yields_any _) fun bounds _ => ?_
    split <;> exact items _ _ _

lemma conjoin {args : List Value} (hargs : ∀ v ∈ args, V v) :
    Yields (conjoin args) (Built V) := by
  fun_cases Lisp.conjoin args with
  | case1 => exact yields_error _
  | case2 items vs =>
      refine yields_ok (.vector fun w hw => ?_)
      rcases List.mem_append.mp hw with hw | hw
      · exact comp.items (.vector items) items (hargs _ (by simp)) rfl w hw
      · exact hargs w (by simp [hw])
  | case3 v vs _ =>
      refine yields_bind (comp.seqArg _ (hargs v (by simp))) fun items hitems => ?_
      refine yields_ok (.list fun w hw => ?_)
      rcases List.mem_append.mp hw with hw | hw
      · exact hargs w (by simp [List.mem_reverse.mp hw])
      · exact hitems w hw

/-- Built-in functions build from members. -/
lemma compute (p : Primitive) {args : List Value} (hargs : ∀ v ∈ args, V v) :
    Yields (p.compute args) (Built V) := by
  have atom {v : Value} (h : v.IsAtom) : Yields (.ok v) (Built V) :=
    yields_ok (.member (comp.atom v h))
  fun_cases Primitive.compute p args with
  -- arithmetic
  | case1 | case3 => exact comp.numbers
  | case2 => exact comp.difference args
  | case4 => exact comp.ratio args
  | case5 => exact yields_bind (yields_any _) fun _ _ => yields_bind (yields_any _) fun _ _ =>
      comp.numbers
  | case6 | case7 => exact yields_bind (yields_any _) fun _ _ => comp.numbers
  -- truth values and texts
  | case8 | case9 | case15 | case16 | case17 | case18 | case19 | case20 | case21 =>
      exact atom trivial
  | case10 => exact yields_wrongArity _ _
  | case11 | case12 | case13 | case14 => exact comp.compareChain _ _ _ args
  -- sequences
  | case22 => exact yields_ok (.list hargs)
  | case23 => exact yields_ok (.vector hargs)
  | case24 v =>
      refine yields_bind (yields_any _) fun n _ => ?_
      split
      · exact atom trivial
      · exact yields_error _
  | case25 v =>
      refine yields_bind (comp.seqArg _ (hargs v (by simp))) fun items hitems => ?_
      refine yields_ok (.member ?_)
      cases items with
      | nil => exact comp.atom _ trivial
      | cons w items => exact hitems w (by simp)
  | case26 v =>
      refine yields_bind (comp.seqArg _ (hargs v (by simp))) fun items hitems => ?_
      exact yields_ok (.list fun w hw => hitems w (List.mem_of_mem_tail hw))
  | case27 v w =>
      refine yields_bind (comp.seqArg _ (hargs w (by simp))) fun items hitems => ?_
      refine yields_ok (.list fun u hu => ?_)
      rcases List.mem_cons.mp hu with rfl | hu
      · exact hargs u (by simp)
      · exact hitems u hu
  | case28 => exact comp.conjoin hargs
  | case29 => exact comp.range args
  | case30 v => exact yields_ok (.member (hargs v (by simp)))
  | case31 => exact yields_wrongArity _ _

/-! ### Closures -/

omit comp in
lemma bindParams {vars : Table Value} {params : List String} {args : List Value}
    (hvars : ∀ x ∈ vars, V x.2) (hargs : ∀ v ∈ args, V v) :
    ∀ x ∈ bindParams vars params args, V x.2 := by
  induction params generalizing vars args with
  | nil => simpa [Lisp.bindParams] using hvars
  | cons p params ih =>
      cases args with
      | nil => simpa [Lisp.bindParams] using hvars
      | cons v args =>
          rw [Lisp.bindParams]
          exact ih (all_set hvars (hargs v (by simp))) fun w hw => hargs w (by simp [hw])

/-- The variables of a call are arguments, lists of arguments and the closure itself. -/
lemma bind {f : Closure} {args : List Value} (hf : V (.closure f)) (hargs : ∀ v ∈ args, V v) :
    Yields (f.bind args) fun vars => ∀ x ∈ vars, V x.2 := by
  have given {vars : Table Value} (h : ∀ x ∈ vars, V x.2) :
      Yields (pure vars) fun vars => ∀ x ∈ vars, V x.2 := yields_ok h
  have params : ∀ x ∈ Lisp.bindParams [] f.params args, V x.2 :=
    bindParams (fun x hx => absurd hx List.not_mem_nil) hargs
  have rest : ∀ v ∈ args.drop f.params.length, V v := fun v hv => hargs v (List.mem_of_mem_drop hv)
  rw [Closure.bind]
  split
  case' h_1 => refine yields_bind (given params) fun vars hvars => ?_
  case' h_2 =>
    split
    case' h_1 =>
      refine yields_bind (given (all_set params (comp.atom .nil trivial))) fun vars hvars => ?_
    case' h_2 =>
      refine yields_bind (comp.bounded (.list rest)) fun v hv => ?_
      refine yields_bind (given (all_set params hv)) fun vars hvars => ?_
  -- whatever the rest is, the closure's own name comes last
  all_goals
    split
    · exact yields_ok hvars
    · beta_reduce
      split
      · exact yields_ok hvars
      · exact yields_ok (all_set hvars hf)

end Composite

/-! ### States -/

/-- All global variables have values in `V`. -/
def Interp.Holds (V : Value → Prop) (i : Interp) : Prop :=
  ∀ t ∈ i.namespaces, ∀ x ∈ t.2, V x.2

namespace Interp

variable {V : Value → Prop} {i : Interp}

lemma Holds.binding {ns name : String} {v : Value} (h : i.Holds V)
    (found : i.binding? ns name = some v) : V v := by
  obtain ⟨vars, hvars, hv⟩ := Option.bind_eq_some_iff.mp found
  exact h _ (mem_of_find? hvars) _ (mem_of_find? hv)

lemma Holds.global {name : String} {v : Value} (h : i.Holds V)
    (found : i.global? name = some v) : V v := by
  rw [global?] at found
  split at found
  · exact h.binding found
  · rcases Option.or_eq_some_iff.mp found with found | ⟨-, found⟩ <;> exact h.binding found

lemma Holds.define {name : String} {v : Value} (h : i.Holds V) (hv : V v) :
    (i.define name v).Holds V := by
  refine all_set (P := fun vars : Table Value => ∀ x ∈ vars, V x.2) h (all_set ?_ hv)
  cases found : i.namespaces.find? i.current with
  | none => simp
  | some vars => exact h _ (mem_of_find? found)

lemma Holds.enter (h : i.Holds V) (ns : String) : (i.enter ns).Holds V := by
  have created : (i.ensure ns).Holds V := by
    rw [ensure]
    split
    · exact h
    · exact all_set (P := fun vars : Table Value => ∀ x ∈ vars, V x.2) h (by simp)
  exact created

/-- A symbol stands for a variable in scope or a global one. -/
lemma Holds.resolve {scope : Scope} (h : i.Holds V) (hscope : ∀ x ∈ scope, V x.2)
    (name : String) : Ended.Sat (· = i) V (resolve scope name i) := by
  rw [Lisp.resolve]
  cases inScope : scope.find? name with
  | some v => exact ⟨hscope _ (mem_of_find? inScope), rfl⟩
  | none =>
      have state : (get : Eval Interp) i = .ok i i := rfl
      cases global : i.global? name with
      | some v =>
          simp only [bind, EStateM.bind, state, global]
          exact ⟨h.global global, rfl⟩
      | none =>
          simp only [bind, EStateM.bind, state, global]
          exact rfl

end Interp

/-- A primitive builds from members and prints. -/
lemma Composite.run {V : Value → Prop} (comp : Composite V) (p : Primitive) {args : List Value}
    {i : Interp} (hargs : ∀ v ∈ args, V v) :
    Ended.Sat (fun j => ∃ text, j = i.print text ∨ j = i) (Built V) (p.run args i) := by
  rw [Primitive.run]
  cases computed : p.compute args with
  | ok v => exact ⟨comp.compute p hargs v computed, p.printed args, .inl rfl⟩
  | error e => exact ⟨"", .inr rfl⟩

/-- **What making a closure does**: it has the next number, the scope as it is and a body of the
operands, and its depth is one more than that of the scope. -/
lemma makeClosure_cases (name : Option String) (scope : Scope) (operands : List Value)
    (i : Interp) :
    (∃ e, makeClosure name scope operands i = .error e i) ∨
      ∃ f : Closure, makeClosure name scope operands i =
          .ok (.closure f) { i with closures := i.closures + 1 } ∧
        f.id = i.closures ∧ f.scope = scope ∧ (∀ form ∈ f.body, form ∈ operands) ∧
        f.depth = 1 + Scope.depth f.scope ∧ f.depth ≤ depthLimit := by
  fun_cases Lisp.makeClosure name scope operands with
  | case1 params body fault refused => exact .inl ⟨_, rfl⟩
  | case2 => exact .inl ⟨_, rfl⟩
  | case3 params body _ _ _ _ _ shallow =>
      exact .inr ⟨_, rfl, rfl, rfl, fun form => List.mem_cons_of_mem _, rfl, Nat.not_lt.mp shallow⟩
  | case4 => exact .inl ⟨_, rfl⟩

end HostedRepl.Lisp
