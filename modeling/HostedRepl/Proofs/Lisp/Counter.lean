/-
The counter of lists under evaluation.

The evaluator passes the number of lists that may still be entered down with
each call. Here the lists that have been entered are counted instead, in a
counter that goes up before a list is evaluated and down after it, and that
each call hands to the next.

* `Dialogue.Counts`: a run with such a counter. Its rules say when the counter
  moves and when a list is refused; they do not look at budgets.
* `Call.budgeted_body`: all calls that a call makes have the same budget.
* `counts_iff`: where budget and counter add up to the limit, a run with a
  counter is a run, and the counter is back where it was at its end, whatever
  the end is.
* `Interp.dialogue_counts`: so the counter is at 0 after every text.
-/
import HostedRepl.Proofs.Lisp.Termination

namespace HostedRepl.Lisp

/-- The call evaluates a nonempty list. -/
def Call.EntersList (c : Call) : Prop :=
  ∃ b scope head operands, c = .eval b scope (.list (head :: operands))

namespace Dialogue

/-- A run that counts the lists under evaluation. A list is refused when the counter would exceed
the limit. -/
inductive Counts : {α : Type} → Dialogue α → ℕ → List CallTree → Ended α → ℕ → Prop
  | done {α : Type} (r : Ended α) (n : ℕ) : Counts (.done r) n [] r n
  | list {α : Type} {b n m m' : ℕ} {scope : Scope} {head : Value} {operands : List Value}
      {i : Interp} {next : Ended Value → Dialogue α} {ts ts' : List CallTree} {r : Ended Value}
      {r' : Ended α} : n + 1 ≤ evalLimit →
      Counts (Call.list (b - 1) scope head operands i) (n + 1) ts r m →
      Counts (next r) (m - 1) ts' r' m' →
      Counts (.call (.eval b scope (.list (head :: operands))) i next) n
        (.node (.eval b scope (.list (head :: operands))) i ts r :: ts') r' m'
  | refused {α : Type} {b n m : ℕ} {scope : Scope} {head : Value} {operands : List Value}
      {i : Interp} {next : Ended Value → Dialogue α} {ts : List CallTree} {r : Ended α} :
      evalLimit < n + 1 → Counts (next (.error .stackOverflow i)) n ts r m →
      Counts (.call (.eval b scope (.list (head :: operands))) i next) n
        (.node (.eval b scope (.list (head :: operands))) i [] (.error .stackOverflow i) :: ts) r m
  | other {α : Type} {c : Call} {n m m' : ℕ} {i : Interp} {next : Ended Value → Dialogue α}
      {ts ts' : List CallTree} {r : Ended Value} {r' : Ended α} : ¬ c.EntersList →
      Counts (c.body i) n ts r m → Counts (next r) m ts' r' m' →
      Counts (.call c i next) n (.node c i ts r :: ts') r' m'

end Dialogue

/-! ### Budgets -/

/-- The number of lists that the call may still enter. -/
def Call.budget : Call → ℕ
  | .eval b _ _ | .apply b _ _ => b

/-- All calls of the dialogue have one budget. -/
abbrev Dialogue.Budgeted {α : Type} (b : ℕ) (d : Dialogue α) : Prop :=
  d.Meets (fun c _ => c.budget = b) (fun _ _ _ => True) fun _ => True

namespace Call

/-- The work of a call makes calls of the kinds that it can make. -/
lemma makes_body (c : Call) (i : Interp) :
    (c.body i).Meets (fun c' _ => c.Makes (fun _ => True) c') (fun _ _ _ => True)
      fun _ => True := by
  have all : c.All fun _ => True := by cases c <;> exact ⟨by simp, by simp⟩
  exact (steady_body admissible_all all i fun _ _ _ _ => trivial).mono (fun _ _ h => h.1)
    (fun _ _ r _ => r.sat_all) fun _ _ => trivial

/-- A call hands its budget on, unless it enters a list. -/
lemma budgeted_body {c : Call} (h : ¬ c.EntersList) (i : Interp) :
    (c.body i).Budgeted c.budget := by
  by_cases empty : ∃ b scope, c = .eval b scope (.list [])
  · obtain ⟨b, scope, rfl⟩ := empty
    cases b <;> exact trivial
  · refine (c.makes_body i).mono (fun c' _ makes => ?_) (fun _ _ _ => id) fun _ => id
    cases makes with
    | @part _ _ _ items | @binding _ _ _ items | @head _ _ items =>
        cases items with
        | nil => exact absurd ⟨_, _, rfl⟩ empty
        | cons head operands => exact absurd ⟨_, _, _, _, rfl⟩ h
    | _ => rfl

/-- The parts of a list have the budget that it leaves. -/
lemma budgeted_list (b : ℕ) (scope : Scope) (head : Value) (operands : List Value) (i : Interp) :
    (list b scope head operands i).Budgeted b := by
  refine ((Call.eval (b + 1) scope (.list (head :: operands))).makes_body i).mono
    (fun c' _ makes => ?_) (fun _ _ _ => id) fun _ => id
  cases makes <;> rfl

/-- Forms in a row are evaluated with one budget. -/
lemma budgeted_sequence (b : ℕ) (scope : Scope) (forms : List Value) (i : Interp) :
    (sequence b scope .nil forms i).Budgeted b := by
  have work : Steady (fun _ => True) (fun c => c.budget = b) (sequence b scope .nil forms)
      fun _ => True := steady_sequence admissible_all (fun _ _ => rfl) trivial
  exact (work i fun _ _ _ _ => trivial).mono (fun _ _ h => h.1) (fun _ _ r _ => r.sat_all)
    fun _ _ => trivial

end Call

/-! ### Counter and budget -/

namespace Dialogue

variable {α : Type} {d : Dialogue α} {b n m : ℕ} {ts : List CallTree} {r : Ended α}

lemma Counts.runs (h : d.Counts n ts r m) (budget : d.Budgeted b) (sum : n + b = evalLimit) :
    d.Runs ts r ∧ m = n := by
  induction h generalizing b with
  | done r n => exact ⟨.done r, rfl⟩
  | @list α b' n m m' scope head operands i next ts ts' r r' entered _ _ inner rest =>
      obtain ⟨rfl, after⟩ := budget
      obtain ⟨k, rfl⟩ : ∃ k, b' = k + 1 := ⟨b' - 1, by change n + b' = evalLimit at sum; omega⟩
      change n + (k + 1) = evalLimit at sum
      obtain ⟨body, rfl⟩ := inner (Call.budgeted_list k scope head operands i) (by omega)
      obtain ⟨others, rfl⟩ := rest (after r trivial) sum
      exact ⟨.call body others, rfl⟩
  | @refused α b' n m scope head operands i next ts r full _ rest =>
      obtain ⟨rfl, after⟩ := budget
      change n + b' = evalLimit at sum
      obtain rfl : b' = 0 := by omega
      obtain ⟨others, rfl⟩ := rest (after _ trivial) sum
      exact ⟨.call (.done _) others, rfl⟩
  | @other α c n m m' i next ts ts' r r' notList _ _ inner rest =>
      obtain ⟨rfl, after⟩ := budget
      obtain ⟨body, rfl⟩ := inner (Call.budgeted_body notList i) sum
      obtain ⟨others, rfl⟩ := rest (after r trivial) sum
      exact ⟨.call body others, rfl⟩

lemma Runs.counts (h : d.Runs ts r) (budget : d.Budgeted b) (sum : n + b = evalLimit) :
    d.Counts n ts r n := by
  induction h generalizing b n with
  | done r => exact .done r n
  | @call α c i next ts ts' r r' body _ inner rest =>
      obtain ⟨rfl, after⟩ := budget
      have others := rest (after r trivial) sum
      by_cases enters : c.EntersList
      · obtain ⟨b, scope, head, operands, rfl⟩ := enters
        change n + b = evalLimit at sum
        cases b with
        | zero =>
            cases body
            exact .refused (by omega) others
        | succ b =>
            exact .list (by omega)
              (inner (Call.budgeted_list b scope head operands i) (by omega)) others
      · exact .other enters (inner (Call.budgeted_body enters i) sum) others

/-- **Counting does not change a run**, and leaves the counter where it was. -/
theorem counts_iff (budget : d.Budgeted b) (sum : n + b = evalLimit) :
    d.Counts n ts r m ↔ d.Runs ts r ∧ m = n := by
  refine ⟨fun h => h.runs budget sum, ?_⟩
  rintro ⟨run, rfl⟩
  exact run.counts budget sum

end Dialogue

/-! ### Texts -/

lemma Ended.result_injective : Function.Injective Ended.result := by
  intro r r' h
  cases r <;> cases r' <;> cases h <;> rfl

/-- **The counter is at rest between texts**: a text that is evaluated when no list is under
evaluation has one run, which ends as the evaluator says, with no list under evaluation. -/
theorem Interp.dialogue_counts (i : Interp) (code : String) :
    ∃ ts, ∀ ts' r n, (i.dialogue code).Counts 0 ts' r n ↔
      ts' = ts ∧ r.result = i.evalText code ∧ n = 0 := by
  have budgeted : (i.dialogue code).Budgeted evalLimit := by
    rw [dialogue]
    split
    · exact Call.budgeted_sequence ..
    · exact trivial
  obtain ⟨ts, ended, run⟩ := i.dialogue_runs code
  refine ⟨ts, fun ts' r n => ?_⟩
  rw [Dialogue.counts_iff budgeted (Nat.zero_add _), run.runs_iff, i.evalText_eq,
    Ended.result_injective.eq_iff, and_assoc]

end HostedRepl.Lisp
