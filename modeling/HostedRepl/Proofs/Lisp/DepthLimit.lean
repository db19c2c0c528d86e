/-
The limit of nested lists only rejects.

* `Tandem.roomier`: two runs that differ in their budgets alone, the first of
  which has no more than the second.
* `evalAt_mono`: a form that is evaluated without running out of budget has the
  same outcome with more budget.
* `depth_limit_only_rejects`: the same for the counter of lists under
  evaluation, which is back where it was after every evaluation, and a list
  that is refused anywhere inside an evaluation is its outcome.
-/
import HostedRepl.Proofs.Lisp.Counter
import HostedRepl.Proofs.Lisp.Lockstep
import HostedRepl.Proofs.Lisp.Passing

namespace HostedRepl.Lisp

/-! ### More budget -/

/-- The same state and values, and no less budget. -/
def Tandem.roomier : Tandem where
  like _ := .same
  state := Eq
  later _ _ := True
  richer := True

lemma Tandem.roomier_lawful : Tandem.roomier.Lawful where
  faithful _ := Likeness.same_faithful
  refl _ := trivial
  trans _ _ := trivial
  value _ h := h
  scope _ h := h
  current h := congrArg Interp.current h.symm
  global name h := by
    subst h
    exact Likeness.same_option _
  define name h hv := ⟨trivial, by subst h; cases hv; rfl⟩
  enter ns h := ⟨trivial, congrArg (Interp.enter · ns) h⟩
  print text h := ⟨trivial, congrArg (Interp.print · text) h⟩
  made h := ⟨congrArg Interp.closures h, trivial, by subst h; rfl⟩
  like_at _ _ := rfl
  visit ns h := by subst h; rfl
  back own h _ h' := ⟨trivial, by subst h; subst h'; rfl⟩

/-- **More budget does not change an outcome** other than the lack of budget. -/
theorem evalAt_mono {b b' : ℕ} (le : b ≤ b') (scope : Scope) (form : Value) (i : Interp)
    (enough : ¬ Ended.Fails .stackOverflow (evalAt b scope form i)) :
    evalAt b' scope form i = evalAt b scope form i := by
  have twin : Tandem.roomier.Twin i (.eval b scope form) (.eval b' scope form) :=
    .eval (.inr ⟨trivial, le⟩) rfl rfl
  have ended : Tandem.roomier.Match _ i (evalAt b scope form i) (evalAt b' scope form i) :=
    Tandem.roomier_lawful.match_call rfl twin
  generalize evalAt b scope form i = r at ended enough ⊢
  generalize evalAt b' scope form i = r' at ended ⊢
  cases ended with
  | ok move same =>
      cases move.state
      cases same
      rfl
  | error e move =>
      cases move.state
      rfl
  | @short i' => exact absurd ⟨i', rfl⟩ enough

/-! ### The counter -/

/-- The evaluation of a form while `n` lists are under evaluation. -/
def Dialogue.within (n : ℕ) (scope : Scope) (form : Value) (i : Interp) : Dialogue Value :=
  .call (.eval (evalLimit - n) scope form) i .done

lemma Dialogue.within_budgeted (n : ℕ) (scope : Scope) (form : Value) (i : Interp) :
    (within n scope form i).Budgeted (evalLimit - n) :=
  ⟨rfl, fun _ _ => trivial⟩

/-- The calls and the end of the evaluation of a form. -/
lemma Dialogue.within_counts {n : ℕ} (h : n ≤ evalLimit) (scope : Scope) (form : Value)
    (i : Interp) :
    ∃ calls, ∀ ts r m, (within n scope form i).Counts n ts r m ↔
      ts = [.node (.eval (evalLimit - n) scope form) i calls
        (evalAt (evalLimit - n) scope form i)] ∧
      r = evalAt (evalLimit - n) scope form i ∧ m = n := by
  obtain ⟨calls, runs⟩ := (Call.eval (evalLimit - n) scope form).runs_alone i
  refine ⟨calls, fun ts r m => ?_⟩
  rw [counts_iff (within_budgeted n scope form i) (by omega), ← and_assoc]
  exact and_congr_left' (runs ts r)

/-- **The limit of nested lists only rejects.** A form that is evaluated with the counter at `n` has
one run. It ends as the evaluator says, with the counter back at `n`, and a lack of depth anywhere
in it is the outcome of all calls around it. If the whole evaluation does not end for lack of depth,
it ends in the same way, with the same state, when the counter starts lower. -/
theorem depth_limit_only_rejects (scope : Scope) (form : Value) (i : Interp) {n : ℕ}
    (h : n ≤ evalLimit) :
    (∃ t : CallTree,
      (∀ ts r m, (Dialogue.within n scope form i).Counts n ts r m ↔
        ts = [t] ∧ r = t.after ∧ m = n) ∧
      t.after = evalAt (evalLimit - n) scope form i ∧
      ∀ u, CallTree.Within u t → ∀ v, CallTree.Within v u →
        v.after.Fails .stackOverflow → u.after.Fails .stackOverflow) ∧
    ∀ n' ≤ n, ∀ ts r m ts' r' m',
      (Dialogue.within n scope form i).Counts n ts r m →
      (Dialogue.within n' scope form i).Counts n' ts' r' m' →
      ¬ r.Fails .stackOverflow → r' = r ∧ m = n ∧ m' = n' := by
  obtain ⟨calls, counts⟩ := Dialogue.within_counts h scope form i
  constructor
  · refine ⟨_, counts, rfl, ?_⟩
    obtain ⟨run, -⟩ := ((counts _ _ _).mpr ⟨rfl, rfl, rfl⟩).runs
      (Dialogue.within_budgeted n scope form i) (by omega)
    exact run.fails_within _ (List.mem_singleton.mpr rfl)
  · intro n' le ts r m ts' r' m' run run' enough
    obtain ⟨calls', counts'⟩ := Dialogue.within_counts (le.trans h) scope form i
    obtain ⟨-, rfl, rfl⟩ := (counts _ _ _).mp run
    obtain ⟨-, rfl, rfl⟩ := (counts' _ _ _).mp run'
    exact ⟨evalAt_mono (by omega) scope form i enough, rfl, rfl⟩

/-- A sum with one list left to enter. -/
theorem depth_limit_only_rejects_sum :
    let form : Value := .list [.symbol "+", .int 1, .int 2]
    127 ≤ evalLimit ∧
      ((Ended.result (evalAt (evalLimit - 127) [] form (.start "user"))).1.map
        Value.print).toOption = some "3" ∧
      ∃ t : CallTree, t.after = evalAt (evalLimit - 127) [] form (.start "user") ∧
        ∀ ts r m, (Dialogue.within 127 [] form (.start "user")).Counts 127 ts r m ↔
          ts = [t] ∧ r = t.after ∧ m = 127 := by
  intro form
  obtain ⟨⟨t, counts, after, -⟩, -⟩ :=
    depth_limit_only_rejects [] form (.start "user") (n := 127) (by decide)
  exact ⟨by decide, by decide +kernel, t, after, counts⟩

end HostedRepl.Lisp
