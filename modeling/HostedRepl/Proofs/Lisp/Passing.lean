/-
Errors are passed on.

* `Dialogue.Passes`: an error of a call is the end of the dialogue that made
  it; `Caller.Passes` says so of a computation, and `passes_closed` that it is
  handed on to what is made of such computations.
* `Call.passes_body`: the work of every call passes errors on. No special form,
  closure or built-in function catches one.
* `Runs.fails_within`: so an error of any call inside a run is the outcome of
  every call around it, and the end of the run.
-/
import HostedRepl.Proofs.Lisp.Closed

namespace HostedRepl.Lisp

/-- The computation has ended with an error. -/
def Ended.Fails {α : Type} (e : EvalError) (r : Ended α) : Prop := ∃ i, r = .error e i

/-- The outcome of the call at the root. -/
def CallTree.after : CallTree → Ended Value
  | node _ _ _ r => r

namespace Dialogue

variable {α β : Type}

/-- An error of a call ends the dialogue. -/
def Passes : Dialogue α → Prop
  | done _ => True
  | call _ _ next => (∀ e i, ∃ i', next (.error e i) = .done (.error e i')) ∧ ∀ r, (next r).Passes

/-- What follows an error may only end with it. -/
lemma Passes.bind {d : Dialogue α} {k : Ended α → Dialogue β} (h : d.Passes)
    (rest : ∀ r, (k r).Passes) (errors : ∀ e i, ∃ i', k (.error e i) = .done (.error e i')) :
    (d.bind k).Passes := by
  induction d with
  | done r => exact rest r
  | call c i next ih =>
      refine ⟨fun e j => ?_, fun r => ih r (h.2 r)⟩
      obtain ⟨j', ended⟩ := h.1 e j
      obtain ⟨j'', ended'⟩ := errors e j'
      refine ⟨j'', ?_⟩
      change (next (.error e j)).bind k = _
      rw [ended]
      exact ended'

/-- An error of a call in a run is its end. -/
lemma Runs.fails {d : Dialogue α} {ts : List CallTree} {r : Ended α} {e : EvalError}
    (h : d.Runs ts r) (passes : d.Passes) : ∀ t ∈ ts, t.after.Fails e → r.Fails e := by
  induction h with
  | done r => simp
  | @call α c i next ts ts' r r' _ rest _ ih =>
      intro t ht failed
      rcases List.mem_cons.mp ht with rfl | ht
      · obtain ⟨j, rfl⟩ := failed
        obtain ⟨j', ended⟩ := passes.1 e j
        rw [ended] at rest
        cases rest
        exact ⟨j', rfl⟩
      · exact ih (passes.2 r) t ht failed

end Dialogue

/-! ### Rules -/

namespace Caller

variable {α β : Type}

/-- From every state, an error of a call ends the computation. -/
def Passes (x : Caller α) : Prop := ∀ i, (x i).Passes

lemma passes_lift (x : Eval α) : Passes (liftM x) := fun _ => trivial

lemma passes_call (c : Call) : Passes (call c) :=
  fun _ => ⟨fun _ i => ⟨i, rfl⟩, fun _ => trivial⟩

lemma passes_bind {x : Caller α} {f : α → Caller β} (first : Passes x)
    (rest : ∀ a, Passes (f a)) : Passes (x >>= f) := by
  refine fun i => (first i).bind (fun r => ?_) fun e j => ⟨j, rfl⟩
  cases r with
  | ok a j => exact rest a j
  | error e j => trivial

lemma passes_inNamespace {own : String} {x : Caller α} (h : Passes x) :
    Passes (inNamespace own x) := by
  refine fun i => (h _).bind (fun r => ?_) fun e j => ⟨_, rfl⟩
  cases r <;> trivial

lemma passes_closed : Closed fun _ => Passes where
  lift _ := passes_lift _
  call := passes_call
  bind := passes_bind
  inNamespace _ := passes_inNamespace

end Caller

/-- **No call catches an error** of a call that it makes. -/
theorem Call.passes_body (c : Call) : Caller.Passes c.body := by
  cases entered : c.enters? with
  | none => exact Caller.passes_closed.body entered
  | some name =>
      rw [body_of_enters? entered]
      exact Caller.passes_lift _

/-! ### Runs -/

/-- **An error inside a call is its outcome.** -/
theorem Dialogue.Runs.fails_within {α : Type} {d : Dialogue α} {ts : List CallTree} {r : Ended α}
    {e : EvalError} (h : d.Runs ts r) : ∀ t ∈ ts, ∀ u, CallTree.Within u t →
      ∀ v, CallTree.Within v u → v.after.Fails e → u.after.Fails e := by
  induction h with
  | done r => simp
  | @call α c i next ts ts' r r' body _ below others =>
      intro t ht u inside v within failed
      rcases List.mem_cons.mp ht with rfl | ht
      · cases inside with
        | sub mem inside => exact below _ mem u inside v within failed
        | root =>
            cases within with
            | root => exact failed
            | @sub _ _ _ _ _ t' mem within =>
                have outcome := below t' mem t' (.root t') v within failed
                exact body.fails (c.passes_body i) t' mem outcome
      · exact others t ht u inside v within failed

end HostedRepl.Lisp
