/-
The namespaces of an interpreter and of its sessions.

* `Interp.Has`: a namespace exists; `has_define`, `has_enter`,
  `binding?_define`, `binding?_enter`: which namespaces and variables there are
  after an operation.
* `Interp.Grows`: namespaces are only added, and a new current one exists.
* `Runtime.leave`: what an evaluation leaves its session with;
  `Runtime.enter_leave`: the next one of the session goes on from there.
-/
import HostedRepl.Proofs.Lisp.Termination

namespace HostedRepl.Lisp

namespace Interp

/-- The namespace exists. -/
def Has (i : Interp) (ns : String) : Prop := (i.namespaces.find? ns).isSome

/-! ### Operations -/

lemma has_define (i : Interp) (name : String) (v : Value) (ns : String) :
    (i.define name v).Has ns ↔ ns = i.current ∨ i.Has ns := by
  rw [Has, define, Table.find?_set]
  split <;> simp_all [Has]

/-- A definition is found under its name in the current namespace. -/
lemma binding?_define (i : Interp) (name : String) (v : Value) (ns x : String) :
    (i.define name v).binding? ns x =
      if ns = i.current ∧ x = name then some v else i.binding? ns x := by
  rw [binding?, define, Table.find?_set]
  by_cases current : ns = i.current
  · subst current
    rw [if_pos rfl, Option.bind_some, Table.find?_set, binding?]
    by_cases named : x = name
    · simp [named]
    · cases i.namespaces.find? i.current <;> simp [named, Table.find?]
  · simp [current, binding?]

lemma has_enter (i : Interp) (ns x : String) : (i.enter ns).Has x ↔ x = ns ∨ i.Has x := by
  rw [Has, enter, ensure]
  split
  · rename_i found
    constructor
    · exact .inr
    · rintro (rfl | known)
      · simp [found]
      · exact known
  · rw [Table.find?_set]
    split <;> simp_all [Has]

/-- Entering a namespace changes no variable. -/
lemma binding?_enter (i : Interp) (ns x name : String) :
    (i.enter ns).binding? x name = i.binding? x name := by
  rw [binding?, binding?, enter, ensure]
  split
  · rfl
  · rename_i missing
    rw [Table.find?_set]
    split
    · rename_i same
      rw [same, missing]
      rfl
    · rfl

@[simp]
lemma closures_enter (i : Interp) (ns : String) : (i.enter ns).closures = i.closures := by
  rw [enter, ensure]
  split <;> rfl

@[simp]
lemma output_enter (i : Interp) (ns : String) : (i.enter ns).output = i.output := by
  rw [enter, ensure]
  split <;> rfl

/-- Entering a namespace that exists makes it the current one and changes nothing else. -/
lemma enter_of_has {i : Interp} {ns : String} (h : i.Has ns) :
    i.enter ns = { i with current := ns } := by
  obtain ⟨vars, found⟩ := Option.isSome_iff_exists.mp h
  rw [enter, ensure, found]

/-- Coming back from a closure changes at most the current namespace. -/
lemma leave_eq (i : Interp) (own caller : String) :
    i.leave own caller = { i with current := if i.current = own then caller else i.current } := by
  rw [leave]
  split <;> rfl

/-! ### Growth -/

/-- Namespaces are only added, and the current one stays or is one that exists. -/
structure Grows (i i' : Interp) : Prop where
  has : ∀ ns, i.Has ns → i'.Has ns
  current : i'.current = i.current ∨ i'.Has i'.current

lemma Grows.refl (i : Interp) : i.Grows i := ⟨fun _ => id, .inl rfl⟩

lemma Grows.trans {i i' i'' : Interp} (h : i.Grows i') (h' : i'.Grows i'') : i.Grows i'' where
  has ns known := h'.has ns (h.has ns known)
  current := by
    rcases h'.current with same | known
    · rw [same]
      exact h.current.imp_right (h'.has _)
    · exact .inr known

/-- The current namespace of a state that has grown exists if it did before. -/
lemma Grows.has_current {i i' : Interp} (h : i.Grows i') (known : i.Has i.current) :
    i'.Has i'.current := by
  rcases h.current with same | known'
  · rw [same]
    exact h.has _ known
  · exact known'

lemma grows_define (i : Interp) (name : String) (v : Value) : i.Grows (i.define name v) where
  has _ known := (i.has_define name v _).mpr (.inr known)
  current := .inl rfl

lemma grows_enter (i : Interp) (ns : String) : i.Grows (i.enter ns) where
  has _ known := (i.has_enter ns _).mpr (.inr known)
  current := .inr ((i.has_enter ns ns).mpr (.inl rfl))

/-- Coming back from a closure, the namespace is that of the caller or one that the closure has
entered. -/
lemma Grows.leave {i i' : Interp} {own : String} (h : Grows { i with current := own } i') :
    i.Grows (i'.leave own i.current) := by
  rw [Interp.leave]
  split
  · exact ⟨h.has, .inl rfl⟩
  · rename_i moved
    exact ⟨h.has, .inr (h.current.resolve_left moved)⟩

end Interp

/-! ### Sessions -/

lemma Table.set_set {α : Type} (t : Table α) (key : String) (a b : α) :
    (t.set key a).set key b = t.set key b := by
  induction t with
  | nil => simp [Table.set]
  | cons e t ih =>
      by_cases found : e.1 = key <;> simp [Table.set, found, ih]

/-- Forms that have been read are evaluated. -/
lemma Interp.evalText_of_read {code : String} {forms : List Value} (h : read code = .ok forms)
    (i : Interp) : i.evalText code = Ended.result (evalForms forms i) := by
  rw [evalText, h]
  dsimp only
  rw [run]
  cases evalForms forms i <;> rfl

namespace Runtime

/-- What a session is left with when an evaluation has ended. -/
def leave (r : Runtime) (session : String) (x : Except EvalError Value × Interp) :
    Outcome × Runtime :=
  (⟨x.1, x.2.output, x.2.current⟩,
    { r with
      interp := { x.2 with output := "" }
      sessions := r.sessions.set session x.2.current })

/-- A text that can be read is evaluated form by form. -/
lemma evalIn_of_read (r : Runtime) {code : String} {forms : List Value}
    (h : read code = .ok forms) (session : String) :
    r.evalIn session code = r.leave session (Ended.result (evalForms forms (r.enter session))) :=
  congrArg (r.leave session) (Interp.evalText_of_read h (r.enter session))

/-- A session that evaluates again finds the state that it was left with. -/
lemma enter_leave (r : Runtime) (session : String) {x : Except EvalError Value × Interp}
    (known : x.2.Has x.2.current) :
    (r.leave session x).2.enter session = { x.2 with output := "" } := by
  have ns : (r.leave session x).2.namespaceOf session = x.2.current := by
    simp [leave, namespaceOf, Table.find?_set]
  have same : ({ x.2 with output := "" } : Interp).enter x.2.current = { x.2 with output := "" } :=
    Interp.enter_of_has known
  rw [enter, ns]
  exact congrArg (fun i : Interp => { i with output := "" }) same

/-- What an earlier evaluation has left for its session is replaced. -/
lemma leave_leave (r : Runtime) (session : String) (x y : Except EvalError Value × Interp) :
    (r.leave session x).2.leave session y = r.leave session y := by
  simp only [leave, Table.set_set]

end Runtime

end HostedRepl.Lisp
