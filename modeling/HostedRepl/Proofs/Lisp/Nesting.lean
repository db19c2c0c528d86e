/-
Values do not nest deep.

* `Value.Reaches`: a value, the items, variables and forms in it, and so on.
* `Value.Sound`: everything that a value reaches has a depth within the limit,
  and every closure that it reaches has recorded the depth that it has.
* `admissible_sound`: evaluation does not leave the sound values, since every
  operation that nests values deeper checks the depth.
* `Interp.Reachable`: the states of an interpreter that has evaluated texts.
* `nesting_bounded`: in such a state all variables are sound, and evaluating a
  text gives and passes on sound values only.
-/
import HostedRepl.Proofs.Lisp.Legible
import HostedRepl.Proofs.Lisp.Termination

namespace HostedRepl.Lisp

/-! ### Sound values -/

/-- The depth that a closure has recorded is one more than the greatest depth of a variable in its
scope; without variables it is one. -/
structure Closure.Exact (f : Closure) : Prop where
  above : ∀ x ∈ f.scope, x.2.depth + 1 ≤ f.depth
  attained : f.depth = 1 ∨ ∃ x ∈ f.scope, f.depth = x.2.depth + 1

namespace Value

/-- An item of a sequence, a variable in the scope of a closure, or a form of its body. -/
inductive Part : Value → Value → Prop
  | item {v w : Value} {items : List Value} : v.seq? = some items → w ∈ items → Part v w
  | captured {f : Closure} {x : String × Value} : x ∈ f.scope → Part (.closure f) x.2
  | form {f : Closure} {form : Value} : form ∈ f.body → Part (.closure f) form

/-- A value, its parts, their parts, and so on. -/
abbrev Reaches : Value → Value → Prop := Relation.ReflTransGen Part

/-- Nothing that the value reaches nests deeper than the limit, and all closures have recorded
their depth. -/
def Sound (v : Value) : Prop :=
  ∀ w, v.Reaches w → w.depth ≤ depthLimit ∧ ∀ f, w = .closure f → f.Exact

/-- A value is sound if its parts are and it is not too deep itself. -/
lemma sound_of_parts {v : Value} (parts : ∀ w, v.Part w → w.Sound) (depth : v.depth ≤ depthLimit)
    (exact' : ∀ f, v = .closure f → f.Exact) : v.Sound := by
  intro w reached
  rcases Relation.ReflTransGen.cases_head reached with rfl | ⟨u, part, rest⟩
  · exact ⟨depth, exact'⟩
  · exact parts u part w rest

lemma Sound.part {v w : Value} (h : v.Sound) (part : v.Part w) : w.Sound :=
  fun u reached => h u (.head part reached)

lemma Sound.depth_le {v : Value} (h : v.Sound) : v.depth ≤ depthLimit := (h v .refl).1

lemma IsAtom.depth_eq {v : Value} (h : v.IsAtom) : v.depth = 0 := by
  cases v with
  | list | vector | closure => exact h.elim
  | _ => rfl

end Value

/-- The recorded depth is exact if it is one more than that of the scope. -/
lemma Closure.exact_of_depth {f : Closure} (h : f.depth = 1 + Scope.depth f.scope) : f.Exact where
  above x hx := by
    have := Scope.depth_le_iff.mp le_rfl x hx
    omega
  attained := by
    by_contra none
    obtain ⟨deep, others⟩ := not_or.mp none
    have shallow : Scope.depth f.scope ≤ f.depth - 2 := Scope.depth_le_iff.mpr fun x hx => by
      have := Scope.depth_le_iff.mp le_rfl x hx
      have other : f.depth ≠ x.2.depth + 1 := fun same => others ⟨x, hx, same⟩
      omega
    omega

/-- **Evaluation does not leave the sound values.** -/
theorem admissible_sound : Admissible Value.Sound where
  atom v h := by
    refine Value.sound_of_parts (fun w part => ?_) (by rw [h.depth_eq]; exact Nat.zero_le _) ?_
    · cases part with
      | @item _ _ items seq mem => cases v <;> simp_all [Value.IsAtom, Value.seq?]
      | captured => exact h.elim
      | form => exact h.elim
    · rintro f rfl
      exact h.elim
  list items h depth := by
    refine Value.sound_of_parts (fun w part => ?_) depth (by simp)
    cases part with
    | item seq mem =>
        cases seq
        exact h w mem
  vector items h depth := by
    refine Value.sound_of_parts (fun w part => ?_) depth (by simp)
    cases part with
    | item seq mem =>
        cases seq
        exact h w mem
  closure f scope body recorded depth := by
    refine Value.sound_of_parts (fun w part => ?_) depth ?_
    · cases part with
      | item seq => cases seq
      | captured mem => exact scope _ mem
      | form mem => exact body _ mem
    · rintro _ ⟨⟩
      exact Closure.exact_of_depth recorded
  items v items h seq w mem := h.part (.item seq mem)
  scope f h x mem := h.part (.captured mem)
  body f h form mem := h.part (.form mem)

/-- Values without functions are sound if they are not too deep. -/
lemma Value.Over.sound {A : Vocabulary} {v : Value} (h : v.Over A) (depth : v.depth ≤ depthLimit) :
    v.Sound := by
  induction h with
  | list _ ih =>
      refine admissible_sound.list _ (fun v hv => ih v hv ?_) depth
      exact Nat.le_trans (Value.depth_list_le_iff.mp (Nat.le_succ _) v hv) depth
  | vector _ ih =>
      refine admissible_sound.vector _ (fun v hv => ih v hv ?_) depth
      exact Nat.le_trans (Value.depth_vector_le_iff.mp (Nat.le_succ _) v hv) depth
  | _ => exact admissible_sound.atom _ trivial

/-! ### Texts -/

namespace Admissible

variable {V : Value → Prop} (adm : Admissible V) {i : Interp} {code : String}
include adm

/-- Evaluating a text of forms in the class starts with evaluations of such forms, with the whole
budget. -/
lemma dialogue_meets (hi : i.Holds V)
    (forms : ∀ forms, read code = .ok forms → ∀ form ∈ forms, V form) :
    (i.dialogue code).Meets
      (fun c i => (∃ form, c = .eval evalLimit [] form ∧ V form) ∧ c.Fine V i)
      (fun _ _ => Ended.Sat (Interp.Holds V) V) (Ended.Sat (Interp.Holds V) V) := by
  rw [Interp.dialogue]
  cases found : read code with
  | error e => exact hi
  | ok forms' =>
      have work : Call.Steady V (fun c => ∃ form, c = .eval evalLimit [] form ∧ V form)
          (Call.sequence evalLimit [] .nil forms') V :=
        Call.steady_sequence adm (fun form mem => ⟨form, rfl, forms forms' found form mem⟩)
          (adm.atom .nil trivial)
      refine (work i hi).mono (fun c i made => ⟨made.1, ?_, made.2⟩) (fun _ _ _ => id) fun _ => id
      obtain ⟨form, rfl, hform⟩ := made.1
      exact ⟨by simp, hform⟩

/-- **What a run keeps**: evaluating a text of forms in the class leaves all variables in it, and
all calls that are made are in it, as well as their outcomes. -/
theorem dialogue_valid (hi : i.Holds V)
    (forms : ∀ forms, read code = .ok forms → ∀ form ∈ forms, V form) {ts : List CallTree}
    {ended : Ended Value} (runs : (i.dialogue code).Runs ts ended) :
    ended.Sat (Interp.Holds V) V ∧
      ∀ t ∈ ts, (∃ form, t.root = .eval evalLimit [] form ∧ V form) ∧
        t.Valid (Call.Fine V) (fun _ _ => Ended.Sat (Interp.Holds V) V) (Call.Makes V) :=
  runs.valid (fun _ _ h => adm.step h) (adm.dialogue_meets hi forms)

end Admissible

/-- The states of an interpreter that starts in some namespace and evaluates texts; between them it
may enter namespaces, and its output may be taken. -/
inductive Interp.Reachable : Interp → Prop
  | start (ns : String) : Reachable (.start ns)
  | evalText {i : Interp} (code : String) : Reachable i → Reachable (i.evalText code).2
  | enter {i : Interp} (ns : String) : Reachable i → Reachable (i.enter ns)
  | take {i : Interp} : Reachable i → Reachable { i with output := "" }

namespace Interp

lemma holds_start {V : Value → Prop} (comp : Composite V) (ns : String) :
    (start ns).Holds V := by
  refine all_set (P := fun vars : Table Value => ∀ x ∈ vars, V x.2) (fun t ht => ?_) (by simp)
  obtain rfl := List.mem_singleton.mp ht
  intro x hx
  obtain ⟨b, -, rfl⟩ := List.mem_map.mp hx
  exact comp.atom _ trivial

/-- Forms that have been read are sound. -/
lemma sound_forms {code : String} (forms : List Value) (h : read code = .ok forms) :
    ∀ form ∈ forms, form.Sound := fun form mem =>
  (read_legible h form mem).1.sound (read_legible h form mem).2

/-- A run of a text ends as evaluating it does. -/
lemma evalText_of_runs {i : Interp} {code : String} {ts : List CallTree} {ended : Ended Value}
    (runs : (i.dialogue code).Runs ts ended) : i.evalText code = ended.result := by
  rw [evalText_eq, runs.eq_settle]

lemma holds_evalText {i : Interp} (hi : i.Holds Value.Sound) (code : String) :
    (i.evalText code).2.Holds Value.Sound := by
  obtain ⟨ts, ended, runs⟩ := i.dialogue_runs code
  have sat := (admissible_sound.dialogue_valid hi sound_forms runs).1
  rw [evalText_of_runs runs]
  cases ended with
  | ok v i => exact sat.2
  | error e i => exact sat

/-- **All variables of a reachable state are sound.** -/
theorem Reachable.holds {i : Interp} (h : i.Reachable) : i.Holds Value.Sound := by
  induction h with
  | start ns => exact holds_start admissible_sound.composite ns
  | evalText code _ ih => exact holds_evalText ih code
  | enter ns _ ih => exact ih.enter ns
  | take _ ih => exact ih

end Interp

/-- **Values do not nest too deep.** In every reachable state, everything that a variable reaches
has a depth within the limit, and closures have recorded their exact depth. The same holds, when a
text is evaluated, of the variables that are left, of a value that is given, and of all calls that
are made: of their forms, scopes, functions, arguments and outcomes. -/
theorem nesting_bounded {i : Interp} (h : i.Reachable) :
    (∀ vars ∈ i.namespaces, ∀ x ∈ vars.2, x.2.Sound) ∧
    ∀ code : String,
      (∀ vars ∈ (i.evalText code).2.namespaces, ∀ x ∈ vars.2, x.2.Sound) ∧
      (∀ v, (i.evalText code).1 = .ok v → v.Sound) ∧
      ∃ ts ended, (i.dialogue code).Runs ts ended ∧ i.evalText code = ended.result ∧
        ∀ t ∈ ts, ∀ c before calls after, CallTree.Within (.node c before calls after) t →
          c.All Value.Sound ∧ before.Holds Value.Sound ∧
            after.Sat (Interp.Holds Value.Sound) Value.Sound := by
  refine ⟨h.holds, fun code => ⟨(h.evalText code).holds, ?_⟩⟩
  obtain ⟨ts, ended, runs⟩ := i.dialogue_runs code
  have valid := admissible_sound.dialogue_valid h.holds Interp.sound_forms runs
  have same := Interp.evalText_of_runs runs
  refine ⟨fun v given => ?_, ts, ended, runs, same, fun t ht c before calls after within => ?_⟩
  · rw [same] at given
    cases ended with
    | ok w i =>
        cases given
        exact valid.1.1
    | error e i => cases given
  · cases ((valid.2 t ht).2).within within with
    | node fine sat _ _ => exact ⟨fine.1, fine.2, sat⟩

/-- A closure over a variable of depth 1 has depth 2. -/
theorem nesting_bounded_closure :
    let i := ((Interp.start defaultNamespace).evalText "(def f (let [x [1]] (fn [] x)))").2
    i.Reachable ∧ (i.binding? defaultNamespace "f").map Value.depth = some 2 ∧
      ∀ vars ∈ i.namespaces, ∀ x ∈ vars.2, x.2.Sound := by
  intro i
  have reachable : i.Reachable := .evalText _ (.start _)
  exact ⟨reachable, by decide +kernel, (nesting_bounded reachable).1⟩

end HostedRepl.Lisp
