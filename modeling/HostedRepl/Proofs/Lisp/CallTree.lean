/-
Evaluations as trees of calls.

* `CallTree`: a call that has been made, with the state before it, the calls
  that it made in turn and its outcome.
* `Dialogue.Runs`: a dialogue makes the calls of some trees, in that order, and
  ends. The relation is inductive, so what runs has ended after finitely many
  calls; nothing in it says that every dialogue runs.
* `Runs.eq_settle`: the end is the one that the evaluator gives;
  `Runs.deterministic`: there is no other run.
* `CallTree.Valid`, `Runs.valid`: what the work of each call keeps holds of all
  calls of a run.
-/
import HostedRepl.Proofs.Lisp.Evaluation

namespace HostedRepl.Lisp

/-- A call, the state before it, the calls that it made in turn, and its outcome. -/
inductive CallTree where
  | node (c : Call) (before : Interp) (calls : List CallTree) (after : Ended Value)

namespace CallTree

/-- The call at the root. -/
def root : CallTree → Call
  | node c _ _ _ => c

/-- A call of a tree. -/
inductive Within : CallTree → CallTree → Prop
  | root (t : CallTree) : Within t t
  | sub {c : Call} {i : Interp} {ts : List CallTree} {r : Ended Value} {t t' : CallTree} :
      t' ∈ ts → Within t t' → Within t (node c i ts r)

/-- Every call is in `P`, every outcome in `Q`, and every call and one that it makes are in `E`. -/
inductive Valid (P : Call → Interp → Prop) (Q : Call → Interp → Ended Value → Prop)
    (E : Call → Call → Prop) : CallTree → Prop
  | node {c : Call} {i : Interp} {ts : List CallTree} {r : Ended Value} :
      P c i → Q c i r → (∀ t ∈ ts, E c t.root) → (∀ t ∈ ts, Valid P Q E t) →
      Valid P Q E (node c i ts r)

variable {P : Call → Interp → Prop} {Q : Call → Interp → Ended Value → Prop}
  {E : Call → Call → Prop}

lemma Valid.within {t u : CallTree} (h : u.Valid P Q E) (within : t.Within u) :
    t.Valid P Q E := by
  induction within with
  | root => exact h
  | sub mem _ ih =>
      cases h with
      | node _ _ _ below => exact ih (below _ mem)

end CallTree

namespace Dialogue

/-- A dialogue makes the calls of some trees, one after the other, and ends. -/
inductive Runs : {α : Type} → Dialogue α → List CallTree → Ended α → Prop
  | done {α : Type} (r : Ended α) : Runs (.done r) [] r
  | call {α : Type} {c : Call} {i : Interp} {next : Ended Value → Dialogue α}
      {ts ts' : List CallTree} {r : Ended Value} {r' : Ended α} :
      Runs (c.body i) ts r → Runs (next r) ts' r' →
      Runs (.call c i next) (.node c i ts r :: ts') r'

namespace Runs

variable {α : Type} {d : Dialogue α} {ts : List CallTree} {r : Ended α}

/-- A run ends as the evaluator says. -/
theorem eq_settle (h : d.Runs ts r) : r = d.settle Call.outcome := by
  induction h with
  | done r => rfl
  | @call α c i next ts ts' r r' _ _ body rest =>
      have outcome : Call.outcome c i = r := by
        rw [Call.outcome_eq, body]
        rfl
      rw [settle, outcome]
      exact rest

/-- There is one run at most. -/
theorem deterministic (h : d.Runs ts r) {ts' : List CallTree} {r' : Ended α}
    (h' : d.Runs ts' r') : ts = ts' ∧ r = r' := by
  induction h generalizing ts' with
  | done r =>
      cases h'
      exact ⟨rfl, rfl⟩
  | call _ _ body rest =>
      cases h' with
      | call body' rest' =>
          obtain ⟨rfl, rfl⟩ := body body'
          obtain ⟨rfl, rfl⟩ := rest rest'
          exact ⟨rfl, rfl⟩

/-- A run of two dialogues in a row is a run of the first and one of the second. -/
lemma of_bind {β : Type} {k : Ended α → Dialogue β} {r' : Ended β} (h : (d.bind k).Runs ts r') :
    ∃ ts₁ r₁ ts₂, d.Runs ts₁ r₁ ∧ (k r₁).Runs ts₂ r' ∧ ts = ts₁ ++ ts₂ := by
  induction d generalizing ts with
  | done r => exact ⟨[], r, ts, .done r, h, rfl⟩
  | call c i next ih =>
      cases h with
      | @call _ _ _ _ inner _ r _ body rest =>
          obtain ⟨ts₁, r₁, ts₂, first, second, rfl⟩ := ih r rest
          exact ⟨.node c i inner r :: ts₁, r₁, ts₂, .call body first, second, rfl⟩

/-- **What the work of every call keeps holds of all calls of a run**, and of its end. -/
theorem valid {P : Call → Interp → Prop} {Q : Call → Interp → Ended Value → Prop}
    {E : Call → Call → Prop} {start : Call → Prop} {final : Ended α → Prop}
    (step : ∀ c i, P c i → (c.body i).Meets (fun c' i' => E c c' ∧ P c' i') Q (Q c i))
    (h : d.Runs ts r) (meets : d.Meets (fun c i => start c ∧ P c i) Q final) :
    final r ∧ ∀ t ∈ ts, start t.root ∧ t.Valid P Q E := by
  induction h generalizing start with
  | done r => exact ⟨meets, by simp⟩
  | @call α c i next ts ts' r r' _ _ body rest =>
      obtain ⟨⟨started, hc⟩, after⟩ := meets
      obtain ⟨hr, below⟩ := body (step c i hc)
      obtain ⟨ended, others⟩ := rest (after r hr)
      refine ⟨ended, fun t ht => ?_⟩
      rcases List.mem_cons.mp ht with rfl | ht
      · exact ⟨started, .node hc hr (fun t ht => (below t ht).1) fun t ht => (below t ht).2⟩
      · exact others t ht

end Runs

end Dialogue

end HostedRepl.Lisp
