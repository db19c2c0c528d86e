/-
A text evaluated piece by piece.

* `Tandem.preceded`: two runs of which one has printed something before.
* `Interp.evalForms_precede`: so what has been printed before plays no part in
  the evaluation of forms; `Interp.grows_evalForms`: these only add namespaces.
* `eval_piecewise`: a text and another one from a new line on are evaluated as
  the two texts one after the other.
-/
import HostedRepl.Proofs.Lisp.Concatenation
import HostedRepl.Proofs.Lisp.Lockstep
import HostedRepl.Proofs.Lisp.Namespaces

namespace HostedRepl.Lisp

/-! ### What has been printed before -/

namespace Interp

/-- The state with something printed before. -/
def precede (before : String) (i : Interp) : Interp := { i with output := before ++ i.output }

variable (before : String) (i : Interp)

lemma enter_precede (ns : String) : (i.precede before).enter ns = (i.enter ns).precede before := by
  simp only [enter, ensure, precede]
  split <;> rfl

lemma print_precede (text : String) :
    (i.precede before).print text = (i.print text).precede before := by
  simp only [print, precede, String.append_assoc]

lemma leave_precede (own caller : String) :
    (i.precede before).leave own caller = (i.leave own caller).precede before := by
  by_cases back : i.current = own <;> simp [leave, precede, back]

end Interp

/-- The second run has printed something before the first one began. -/
def Tandem.preceded (before : String) : Tandem where
  like _ := .same
  state i j := j = i.precede before
  later := Interp.Grows
  richer := False

lemma Tandem.preceded_lawful (before : String) : (Tandem.preceded before).Lawful where
  faithful _ := Likeness.same_faithful
  refl := Interp.Grows.refl
  trans := Interp.Grows.trans
  value _ h := h
  scope _ h := h
  current h := by
    subst h
    rfl
  global name h := by
    subst h
    exact Likeness.same_option _
  define name h hv := ⟨Interp.grows_define _ _ _, by
    subst h
    cases hv
    rfl⟩
  enter ns h := ⟨Interp.grows_enter _ _, by
    subst h
    exact Interp.enter_precede ..⟩
  print text h := ⟨⟨fun _ => id, .inl rfl⟩, by
    subst h
    exact Interp.print_precede ..⟩
  made h := by
    subst h
    exact ⟨rfl, ⟨fun _ => id, .inl rfl⟩, rfl⟩
  like_at _ _ := rfl
  visit ns h := by
    subst h
    rfl
  back own h later h' := ⟨later.leave, by
    subst h
    subst h'
    exact Interp.leave_precede ..⟩

/-! ### Forms in a row -/

lemma evalBody_append (ev : Evaluate) (scope : Scope) (last : Value) (forms forms' : List Value) :
    evalBody ev scope last (forms ++ forms') =
      evalBody ev scope last forms >>= fun v => evalBody ev scope v forms' := by
  induction forms generalizing last with
  | nil => rfl
  | cons form forms ih => simp only [List.cons_append, evalBody, ih, bind_assoc]

namespace Interp

/-- **What has been printed before plays no part** in the evaluation of forms, which only adds
namespaces. -/
lemma evalForms_precede (forms : List Value) (before : String) (i : Interp) :
    (Tandem.preceded before).Match (fun _ => Eq) i (evalForms forms i)
      (evalForms forms (i.precede before)) :=
  (Tandem.preceded_lawful before).match_forms rfl (List.forall₂_same.mpr fun _ _ => rfl)

/-- Evaluating forms only adds namespaces. -/
lemma grows_evalForms {i i' : Interp} {forms : List Value} {v : Value}
    (h : evalForms forms i = .ok v i') : i.Grows i' := by
  have ended := evalForms_precede forms "" i
  rw [h] at ended
  generalize evalForms forms (i.precede "") = r at ended
  cases ended with
  | ok move => exact move.later

end Interp

/-! ### Pieces -/

namespace Runtime

/-- What has been printed before the forms stands before what they print. -/
lemma leave_printed (r : Runtime) (session : String) (forms : List Value) (i : Interp) :
    let whole := r.leave session (Ended.result (evalForms forms i))
    let rest := r.leave session (Ended.result (evalForms forms { i with output := "" }))
    whole.1.result = rest.1.result ∧ whole.1.output = i.output ++ rest.1.output ∧
      whole.1.ns = rest.1.ns ∧ whole.2 = rest.2 := by
  have before : i = Interp.precede i.output { i with output := "" } := by
    rw [Interp.precede, String.append_empty]
  have ended := Interp.evalForms_precede forms i.output { i with output := "" }
  rw [← before] at ended
  dsimp only
  generalize evalForms forms i = x at ended
  generalize evalForms forms { i with output := "" } = y at ended
  cases ended with
  | ok move same =>
      cases move.state
      cases same
      exact ⟨rfl, rfl, rfl, rfl⟩
  | error e move =>
      cases move.state
      exact ⟨rfl, rfl, rfl, rfl⟩
  | short rich => exact rich.elim

end Runtime

/-- **A text is evaluated as its pieces are, one after the other.** When the first piece gives a
value, the namespace and all tables are in the end what the pieces leave, and what is printed is
what they print; so is the result, but when the second piece has no forms it is that of the first.
When the first piece fails, so does the whole, in the same way. -/
theorem eval_piecewise (r : Runtime) (session a b : String) {forms forms' : List Value}
    (ha : read a = .ok forms) (hb : read b = .ok forms') :
    let first := r.evalIn session a
    let next := first.2.evalIn session b
    let whole := r.evalIn session (a ++ "\n" ++ b)
    (∀ v, first.1.result = .ok v →
      whole.1.result = (if forms'.isEmpty then .ok v else next.1.result) ∧
      whole.1.output = first.1.output ++ next.1.output ∧
      whole.1.ns = next.1.ns ∧ whole.2 = next.2) ∧
    ∀ e, first.1.result = .error e → whole = first := by
  intro first next whole
  have both : read (a ++ "\n" ++ b) = .ok (forms ++ forms') := by
    rw [read_append ha, hb]
    rfl
  have hfirst : first = r.leave session (Ended.result (evalForms forms (r.enter session))) :=
    r.evalIn_of_read ha session
  have hwhole : whole =
      r.leave session (Ended.result (evalForms (forms ++ forms') (r.enter session))) :=
    r.evalIn_of_read both session
  have hnext : next = first.2.leave session
      (Ended.result (evalForms forms' (first.2.enter session))) :=
    first.2.evalIn_of_read hb session
  have split : evalForms (forms ++ forms') (r.enter session) = _ :=
    congrFun (evalBody_append (evalAt evalLimit) [] .nil forms forms') _
  change _ = EStateM.bind (evalForms forms) _ _ at split
  rw [EStateM.bind] at split
  cases ended : evalForms forms (r.enter session) with
  | error e i =>
      rw [ended] at hfirst split
      rw [split] at hwhole
      refine ⟨fun v given => ?_, fun e' _ => hwhole.trans hfirst.symm⟩
      rw [hfirst] at given
      cases given
  | ok v i =>
      rw [ended] at hfirst split
      rw [split] at hwhole
      have known : i.Has i.current :=
        (Interp.grows_evalForms ended).has_current ((Interp.has_enter _ _ _).mpr (.inl rfl))
      rw [hfirst, r.enter_leave session known, r.leave_leave] at hnext
      change next = r.leave session (Ended.result (evalForms forms' { i with output := "" }))
        at hnext
      refine ⟨fun v' given => ?_, fun e failed => ?_⟩
      · rw [hfirst] at given ⊢
        obtain rfl : v = v' := by cases given; rfl
        rw [hwhole, hnext]
        cases forms' with
        | nil => exact ⟨rfl, (String.append_empty ..).symm, rfl, rfl⟩
        | cons form forms' => exact r.leave_printed session (form :: forms') i
      · rw [hfirst] at failed
        cases failed

/-- A piece that prints and enters a namespace, and one with a single form. -/
theorem eval_piecewise_printed :
    let a := "(println 1) (ns other)"
    let first := Runtime.start.evalIn "s" a
    let next := first.2.evalIn "s" "2"
    let whole := Runtime.start.evalIn "s" (a ++ "\n" ++ "2")
    (read a).isOk ∧ (read "2").isOk ∧ first.1.result.isOk ∧
      whole.1.output = first.1.output ++ next.1.output ∧ whole.1.ns = next.1.ns ∧
      whole.2 = next.2 := by
  intro a first next whole
  have readFirst : (read a).isOk := by decide +kernel
  have readNext : (read "2").isOk := by decide +kernel
  have evaluated : first.1.result.isOk := by decide +kernel
  refine ⟨readFirst, readNext, evaluated, ?_⟩
  cases ha : read a with
  | error e => rw [ha] at readFirst; cases readFirst
  | ok forms =>
      cases hb : read "2" with
      | error e => rw [hb] at readNext; cases readNext
      | ok forms' =>
          cases given : first.1.result with
          | error e => rw [given] at evaluated; cases evaluated
          | ok v => exact ((eval_piecewise Runtime.start "s" a "2" ha hb).1 v given).2

/-- A piece without forms gives `nil`, but the whole text gives the value of the first piece. -/
theorem empty_piece :
    let first := Runtime.start.evalIn "s" "1"
    let next := first.2.evalIn "s" ""
    let whole := Runtime.start.evalIn "s" ("1" ++ "\n" ++ "")
    (read "1").isOk ∧ (read "").isOk ∧ first.1.result.isOk ∧
      next.1.result.toOption.map Value.print = some "nil" ∧
      whole.1.result.toOption.map Value.print = some "1" ∧
      whole.1.result ≠ next.1.result := by
  intro first next whole
  have ofNext : next.1.result.toOption.map Value.print = some "nil" := by decide +kernel
  have ofWhole : whole.1.result.toOption.map Value.print = some "1" := by decide +kernel
  refine ⟨by decide +kernel, by decide +kernel, by decide +kernel, ofNext, ofWhole, ?_⟩
  intro same
  rw [same, ofNext] at ofWhole
  exact absurd ofWhole (by decide)

end HostedRepl.Lisp
