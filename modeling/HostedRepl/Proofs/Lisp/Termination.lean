/-
Every evaluation ends.

* `Call.rank`: the budget of a call, then the size of its arguments but the
  first, then the size of its form, in lexicographic order. A call of a value
  comes above all evaluations with its budget.
* `Makes.rank_lt`: a call makes calls of lower rank. The first argument is left
  out since it is what a higher-order function calls: without it the arguments
  get fewer, even when such functions call each other and the values that
  `reduce` combines grow.
* `Call.runs`: so every call makes finitely many calls and ends;
  `Call.runs_alone`: in one way only, with the outcome that the evaluator gives.
* `Interp.dialogue`: what evaluating a text does; `evaluation_ends` says that
  it ends with what the evaluator gives.
-/
import HostedRepl.Lisp.Runtime
import HostedRepl.Proofs.Lisp.SubCall

namespace HostedRepl.Lisp

/-! ### The measure -/

namespace Call

/-- The budget, the size of the arguments but the first, and the size of the form. -/
def rank : Call → ℕ ×ₗ ℕ ×ₗ ℕ
  | .eval b _ form => toLex (b, toLex (0, form.size))
  | .apply b _ args => toLex (b, toLex (1 + Value.sizeOfItems args.tail, 0))

/-- A smaller budget. -/
lemma rank_lt_of_budget (b : ℕ) (x y : ℕ ×ₗ ℕ) : toLex (b, x) < toLex (b + 1, y) :=
  Prod.Lex.toLex_lt_toLex.mpr (.inl (Nat.lt_succ_self b))

/-- A smaller size of the arguments. -/
lemma rank_lt_of_args {m n : ℕ} (b x y : ℕ) (h : m < n) :
    toLex (b, toLex (m, x)) < toLex (b, toLex (n, y)) :=
  Prod.Lex.toLex_lt_toLex.mpr (.inr ⟨rfl, Prod.Lex.toLex_lt_toLex.mpr (.inl h)⟩)

/-- A smaller size of the form. -/
lemma rank_lt_of_form {m n : ℕ} (b x : ℕ) (h : m < n) :
    toLex (b, toLex (x, m)) < toLex (b, toLex (x, n)) :=
  Prod.Lex.toLex_lt_toLex.mpr (.inr ⟨rfl, Prod.Lex.toLex_lt_toLex.mpr (.inr ⟨rfl, h⟩)⟩)

/-- An item of an argument is smaller than all arguments together. -/
lemma size_lt_of_item {xs v : Value} {args items : List Value} (mem : xs ∈ args)
    (seq : xs.seq? = some items) (mem' : v ∈ items) : v.size < Value.sizeOfItems args :=
  calc v.size ≤ Value.sizeOfItems items := Value.size_le_of_mem mem'
    _ < xs.size := Value.sizeOfItems_lt_size seq
    _ ≤ Value.sizeOfItems args := Value.size_le_of_mem mem

/-- **A call makes calls of lower rank.** -/
theorem Makes.rank_lt {V : Value → Prop} {c c' : Call} (h : c.Makes V c') : c'.rank < c.rank := by
  cases h with
  | @item b scope items item mem =>
      refine rank_lt_of_form b 0 ?_
      have := Value.size_le_of_mem mem
      simp only [Value.size]
      omega
  | part | binding | head => exact rank_lt_of_budget _ _ _
  | body => exact rank_lt_of_args _ _ _ (by omega)
  | @start b h g args _ nonempty =>
      refine rank_lt_of_args b _ _ ?_
      obtain ⟨v, args, rfl⟩ := List.exists_cons_of_ne_nil nonempty
      have := Value.size_pos v
      simp only [List.tail_cons, List.tail_nil, Value.sizeOfItems]
      omega
  | @each b h g xs v args items _ mem seq mem' =>
      refine rank_lt_of_args b _ _ ?_
      have := size_lt_of_item mem seq mem'
      simp only [List.tail_cons, Value.sizeOfItems]
      omega
  | @fold b h g xs acc v args items _ mem seq mem' _ =>
      refine rank_lt_of_args b _ _ ?_
      have := size_lt_of_item mem seq mem'
      simp only [List.tail_cons, Value.sizeOfItems]
      omega
  | @spread b g last args items seq =>
      refine rank_lt_of_args b _ _ ?_
      have := Value.sizeOfItems_lt_size seq
      have := Value.sizeOfItems_tail_le (args ++ items)
      simp only [List.tail_cons, Value.sizeOfItems_append, Value.sizeOfItems] at *
      omega

end Call

/-! ### Runs -/

namespace Dialogue

/-- A dialogue runs if all calls that it makes do. -/
lemma Meets.exists_runs {α : Type} {d : Dialogue α} {pre : Call → Interp → Prop}
    {post : Call → Interp → Ended Value → Prop} {final : Ended α → Prop}
    (h : d.Meets pre post final) (outcomes : ∀ c i r, post c i r)
    (calls : ∀ c i, pre c i → ∃ ts r, (c.body i).Runs ts r) : ∃ ts r, d.Runs ts r := by
  induction d with
  | done r => exact ⟨[], r, .done r⟩
  | call c i next ih =>
      obtain ⟨ts, r, body⟩ := calls c i h.1
      obtain ⟨ts', r', others⟩ := ih r (h.2 r (outcomes c i r))
      exact ⟨_, r', .call body others⟩

/-- A dialogue that runs has one run, and ends as the evaluator says. -/
lemma Runs.runs_iff {α : Type} {d : Dialogue α} {ts : List CallTree} {r : Ended α} (h : d.Runs ts r)
    {ts' : List CallTree} {r' : Ended α} :
    d.Runs ts' r' ↔ ts' = ts ∧ r' = d.settle Call.outcome := by
  constructor
  · intro h'
    obtain ⟨rfl, rfl⟩ := h.deterministic h'
    exact ⟨rfl, h.eq_settle⟩
  · rintro ⟨rfl, rfl⟩
    rwa [← h.eq_settle]

end Dialogue

/-- Every state and every value are as they should be when all values are allowed. -/
lemma Ended.sat_all (r : Ended Value) :
    r.Sat (Interp.Holds fun _ => True) fun _ => True := by
  cases r with
  | ok v i => exact ⟨trivial, fun _ _ _ _ => trivial⟩
  | error e i => exact fun _ _ _ _ => trivial

/-- Work runs if the calls that it makes do. -/
lemma Call.Steady.exists_runs {α : Type} {G : Call → Prop} {A : α → Prop} {x : Caller α}
    (h : Call.Steady (fun _ => True) G x A)
    (calls : ∀ c, G c → ∀ i, ∃ ts r, (c.body i).Runs ts r) (i : Interp) :
    ∃ ts r, (x i).Runs ts r :=
  (h i fun _ _ _ _ => trivial).exists_runs (fun _ _ r => r.sat_all) fun c i hc => calls c hc.1 i

/-- **Every call makes finitely many calls and ends.** -/
theorem Call.runs (c : Call) (i : Interp) : ∃ ts r, (c.body i).Runs ts r := by
  induction c using (InvImage.wf Call.rank wellFounded_lt).induction generalizing i with
  | _ c ih =>
      have all : c.All fun _ => True := by cases c <;> exact ⟨by simp, by simp⟩
      exact (steady_body admissible_all all).exists_runs (fun c' made => ih c' made.rank_lt) i

/-- A single call has one run. -/
lemma Call.runs_alone (c : Call) (i : Interp) :
    ∃ ts, ∀ ts' r, (Dialogue.call c i .done).Runs ts' r ↔
      ts' = [.node c i ts (c.outcome i)] ∧ r = c.outcome i := by
  obtain ⟨ts, r, body⟩ := c.runs i
  have run : (Dialogue.call c i .done).Runs [.node c i ts r] r := .call body (.done r)
  obtain rfl : r = c.outcome i := run.eq_settle
  exact ⟨ts, fun ts' r' => run.runs_iff⟩

/-- Forms in a row are evaluated with finitely many calls. -/
lemma Call.sequence_runs (b : ℕ) (scope : Scope) (forms : List Value) (i : Interp) :
    ∃ ts r, (sequence b scope .nil forms i).Runs ts r := by
  have work : Steady (fun _ => True) (fun _ => True) (sequence b scope .nil forms) fun _ => True :=
    steady_sequence admissible_all (fun _ _ => trivial) trivial
  exact work.exists_runs (fun c _ => c.runs) i

/-! ### Texts -/

/-- What evaluating a text does. -/
def Interp.dialogue (i : Interp) (code : String) : Dialogue Value :=
  match read code with
  | .ok forms => Call.sequence evalLimit [] .nil forms i
  | .error e => .done (.error (.read e) i)

/-- The result, and the state that is left. -/
def Ended.result : Ended Value → Except EvalError Value × Interp
  | .ok v i => (.ok v, i)
  | .error e i => (.error e, i)

namespace Interp

/-- A text is evaluated as its dialogue says. -/
lemma evalText_eq (i : Interp) (code : String) :
    i.evalText code = ((i.dialogue code).settle Call.outcome).result := by
  rw [evalText, dialogue]
  cases read code with
  | error e => rfl
  | ok forms =>
      have settled : (Call.sequence evalLimit [] .nil forms i).settle Call.outcome =
          evalForms forms i := congrFun (Call.settle_sequence evalLimit [] .nil forms) i
      change i.run (evalForms forms) =
        ((Call.sequence evalLimit [] .nil forms i).settle Call.outcome).result
      rw [settled, run]
      cases evalForms forms i <;> rfl

lemma dialogue_runs (i : Interp) (code : String) : ∃ ts r, (i.dialogue code).Runs ts r := by
  rw [dialogue]
  cases read code with
  | error e => exact ⟨_, _, .done _⟩
  | ok forms => exact Call.sequence_runs evalLimit [] forms i

end Interp

/-- The state in which a session evaluates. -/
def Runtime.enter (r : Runtime) (session : String) : Interp :=
  { r.interp.enter (r.namespaceOf session) with output := "" }

/-- **Every evaluation ends**: evaluating forms in any scope and state makes the calls of finitely
many finite trees and no others, and ends with what the evaluator gives; so does evaluating a text
in a session. -/
theorem evaluation_ends :
    (∀ (b : ℕ) (scope : Scope) (forms : List Value) (i : Interp), ∃ ts, ∀ ts' ended,
      (Call.sequence b scope .nil forms i).Runs ts' ended ↔
        ts' = ts ∧ ended = evalBody (evalAt b) scope .nil forms i) ∧
    ∀ (r : Runtime) (session code : String), ∃ ts ended,
      (∀ ts' ended', ((r.enter session).dialogue code).Runs ts' ended' ↔
        ts' = ts ∧ ended' = ended) ∧
      (r.evalIn session code).1.result = ended.result.1 ∧
      (r.evalIn session code).1.output = ended.result.2.output ∧
      (r.evalIn session code).1.ns = ended.result.2.current := by
  constructor
  · intro b scope forms i
    obtain ⟨ts, ended, runs⟩ := Call.sequence_runs b scope forms i
    have settled : (Call.sequence b scope .nil forms i).settle Call.outcome =
        evalBody (evalAt b) scope .nil forms i :=
      congrFun (Call.settle_sequence b scope .nil forms) i
    refine ⟨ts, fun ts' ended' => ?_⟩
    rw [runs.runs_iff, settled]
  · intro r session code
    obtain ⟨ts, ended, runs⟩ := (r.enter session).dialogue_runs code
    have same := (r.enter session).evalText_eq code
    refine ⟨ts, ((r.enter session).dialogue code).settle Call.outcome, fun ts' ended' =>
      runs.runs_iff, ?_⟩
    rw [← same]
    exact ⟨rfl, rfl, rfl⟩

end HostedRepl.Lisp
