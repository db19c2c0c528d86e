/-
The identity of functions.

Closures are compared by their numbers alone. That tells them apart, since each
closure gets a number of its own when it is made.

* `Value.Contains`, `Value.ToldApart`: the closures in a value, and that they
  are told apart by their numbers.
* `Value.Registered`: the closures that a value reaches stand in a register, each
  at its number.
* `Growing.register`: values registered so far, a class that grows by each
  closure that is made; `lawful_register`: evaluation does not leave it.
* `Lawful.dialogue_valid`: what a run keeps of a class that grows.
* `Interp.Reachable.registered`: all variables of a reachable state are in one
  register; `closures_told_apart`: **and all that a call is given is told apart**.
-/
import HostedRepl.Proofs.Lisp.Namespaces
import HostedRepl.Proofs.Lisp.Nesting

namespace HostedRepl.Lisp

namespace Value

/-- A closure occurs in a value: it is the value, or it occurs in an item. -/
inductive Contains : Value → Closure → Prop
  | self (f : Closure) : Contains (.closure f) f
  | item {v w : Value} {items : List Value} {f : Closure} :
      v.seq? = some items → w ∈ items → Contains w f → Contains v f

/-- Closures that occur in two values are one if they have one number. -/
def ToldApart (v w : Value) : Prop :=
  ∀ f g : Closure, v.Contains f → w.Contains g → f.id = g.id → f = g

lemma Contains.reaches {v : Value} {f : Closure} (h : v.Contains f) : v.Reaches (.closure f) := by
  induction h with
  | self f => exact .refl
  | item seq mem _ ih => exact .head (.item seq mem) ih

/-! ### Registers -/

/-- Every closure that the value reaches stands in the register, at its number. -/
def Registered (register : List Closure) (v : Value) : Prop :=
  ∀ f, v.Reaches (.closure f) → register[f.id]? = some f

variable {register : List Closure} {v w : Value}

lemma registered_of_parts (parts : ∀ w, v.Part w → w.Registered register)
    (self : ∀ f, v = .closure f → register[f.id]? = some f) : v.Registered register := by
  intro f reached
  rcases Relation.ReflTransGen.cases_head reached with same | ⟨w, part, rest⟩
  · exact self f same
  · exact parts w part f rest

lemma Registered.part (h : v.Registered register) (part : v.Part w) : w.Registered register :=
  fun f reached => h f (.head part reached)

lemma Registered.append (h : v.Registered register) (more : List Closure) :
    v.Registered (register ++ more) := by
  intro f reached
  have found := h f reached
  rw [List.getElem?_append_left (List.getElem?_eq_some_iff.mp found).1]
  exact found

/-- Registered values are told apart. -/
lemma Registered.toldApart (hv : v.Registered register) (hw : w.Registered register) :
    v.ToldApart w := by
  intro f g hf hg same
  have found := hv f hf.reaches
  rw [same, hw g hg.reaches] at found
  exact (Option.some.inj found).symm

lemma registered_items {items : List Value} (seq : v.seq? = some items)
    (h : ∀ w ∈ items, w.Registered register) : v.Registered register := by
  refine registered_of_parts (fun w part => ?_) fun f same => by subst same; cases seq
  cases part with
  | item seq' mem =>
      cases seq.symm.trans seq'
      exact h w mem
  | captured | form => cases seq

lemma IsAtom.registered (h : v.IsAtom) : v.Registered register := by
  cases v with
  | list | vector | closure => exact h.elim
  | nil => exact registered_items rfl (by simp)
  | _ =>
    refine registered_of_parts (fun w part => ?_) (by simp)
    cases part with
    | item seq => cases seq

/-- Values without functions are registered. -/
lemma Over.registered {A : Vocabulary} (h : v.Over A) : v.Registered register := by
  induction h with
  | list _ ih => exact registered_items rfl ih
  | vector _ ih => exact registered_items rfl ih
  | _ => exact IsAtom.registered trivial

end Value

namespace Growing

/-- The values that are registered so far. -/
def register : Growing where
  World := List Closure
  later made made' := made <+: made'
  value made v := v.Registered made
  state made i := made.length = i.closures ∧ i.Holds (Value.Registered made)

/-- **Evaluation does not leave the registered values**, if each closure is entered when it is
made. -/
theorem lawful_register : register.Lawful where
  refl _ := List.prefix_rfl
  trans := List.IsPrefix.trans
  lasting := by
    rintro made _ ⟨more, rfl⟩ v h
    exact Value.Registered.append h more
  composite made :=
    { atom := fun v h => h.registered
      list := fun items h _ => Value.registered_items rfl h
      vector := fun items h _ => Value.registered_items rfl h
      items := fun v items h seq w mem => Value.Registered.part h (.item seq mem)
      scope := fun f h x mem => Value.Registered.part h (.captured mem)
      body := fun f h form mem => Value.Registered.part h (.form mem) }
  holds hi := hi.2
  define _ hi hv := ⟨hi.1, hi.2.define hv⟩
  enter ns hi := ⟨hi.1.trans (Interp.closures_enter _ ns).symm, hi.2.enter ns⟩
  visit _ hi := hi
  print _ hi := hi
  made {made i f} hi scope body id _ _ := by
    refine ⟨List.append made [f], made.prefix_append [f], ?_, ?_, fun t ht x hx => ?_⟩
    · refine Value.registered_of_parts (fun w part => ?_) ?_
      · cases part with
        | item seq => cases seq
        | captured mem => exact Value.Registered.append (scope _ mem) [f]
        | form mem => exact Value.Registered.append (body _ mem) [f]
      · rintro _ ⟨⟩
        rw [id, ← hi.1]
        exact List.getElem?_concat_length
    · exact List.length_append.trans (congrArg (· + 1) hi.1)
    · exact Value.Registered.append (hi.2 t ht x hx) [f]

/-! ### Texts -/

namespace Lawful

variable {K : Growing} (law : K.Lawful) {w : K.World} {i : Interp} {code : String}
include law

/-- Evaluating a text of forms in the class makes calls in the class, and ends in a later world. -/
lemma dialogue_meets (hi : K.state w i)
    (forms : ∀ w' forms, read code = .ok forms → ∀ form ∈ forms, K.value w' form) :
    (i.dialogue code).Meets K.Fine K.Outcome (K.Ends w K.value) := by
  rw [Interp.dialogue]
  cases found : read code with
  | error e => exact law.ends_error _ hi
  | ok forms' =>
      have work : K.Grows (fun w c => c.All (K.value w)) w
          (Call.sequence evalLimit [] .nil forms') K.value :=
        Call.grows_sequence law (fun w' _ form mem => ⟨by simp, forms w' forms' found form mem⟩)
          ((law.composite w).atom .nil trivial)
      exact work.meets law hi fun _ _ _ => id

/-- **What a run keeps**: evaluating a text of forms in the class ends in a later world, and every
call that is made is in the class in some world, and ends in a later one. -/
theorem dialogue_valid (hi : K.state w i)
    (forms : ∀ w' forms, read code = .ok forms → ∀ form ∈ forms, K.value w' form)
    {ts : List CallTree} {ended : Ended Value} (runs : (i.dialogue code).Runs ts ended) :
    K.Ends w K.value ended ∧ ∀ t ∈ ts, t.Valid K.Fine K.Outcome fun _ _ => True := by
  have start : (i.dialogue code).Meets (fun c i => True ∧ K.Fine c i) K.Outcome
      (K.Ends w K.value) := (law.dialogue_meets hi forms).mono
    (fun _ _ fine => ⟨trivial, fine⟩) (fun _ _ _ => id) fun _ => id
  have kept := runs.valid (E := fun _ _ => True) (fun c i fine => (law.step fine).mono
    (fun _ _ fine => ⟨trivial, fine⟩) (fun _ _ _ => id) fun _ => id) start
  exact ⟨kept.1, fun t mem => (kept.2 t mem).2⟩

end Lawful

end Growing

namespace Interp

/-- Forms that have been read are registered, since there are no functions in them. -/
lemma registered_forms {code : String} (made : List Closure) (forms : List Value)
    (h : read code = .ok forms) : ∀ form ∈ forms, form.Registered made :=
  fun form mem => (read_legible h form mem).1.registered

/-- **In every reachable state there is a register** of the closures made so far, in which all
variables are. -/
theorem Reachable.registered {i : Interp} (h : i.Reachable) :
    ∃ made : List Closure, made.length = i.closures ∧ i.Holds (Value.Registered made) := by
  induction h with
  | start ns => exact ⟨[], rfl, holds_start (Growing.lawful_register.composite []) ns⟩
  | @evalText i code _ ih =>
      obtain ⟨made, hi⟩ := ih
      obtain ⟨ts, ended, runs⟩ := i.dialogue_runs code
      obtain ⟨made', -, sat⟩ := (Growing.lawful_register.dialogue_valid hi registered_forms runs).1
      rw [evalText_of_runs runs]
      cases ended with
      | ok v i => exact ⟨made', sat.2⟩
      | error e i => exact ⟨made', sat⟩
  | enter ns _ ih =>
      obtain ⟨made, hi⟩ := ih
      exact ⟨made, Growing.lawful_register.enter ns hi⟩
  | take _ ih => exact ih

end Interp

/-- **Closures with one number are one.** Whenever something is called while a text is evaluated in
a reachable state, the closures in what it is given are told apart by their numbers. -/
theorem closures_told_apart {i : Interp} (h : i.Reachable) {code : String} {ts : List CallTree}
    {ended : Ended Value} (runs : (i.dialogue code).Runs ts ended) {t : CallTree} (mem : t ∈ ts)
    {b : ℕ} {f : Value} {args : List Value} {before : Interp} {calls : List CallTree}
    {after : Ended Value}
    (within : CallTree.Within (.node (.apply b f args) before calls after) t) :
    ∀ v ∈ args, ∀ w ∈ args, v.ToldApart w := by
  obtain ⟨made, hi⟩ := h.registered
  have valid := (Growing.lawful_register.dialogue_valid hi Interp.registered_forms runs).2 t mem
  cases valid.within within with
  | node fine =>
      obtain ⟨made, -, -, registered⟩ := fine
      exact fun v hv w hw => (registered v hv).toldApart (registered w hw)

end HostedRepl.Lisp
