/-
Computations cut at their calls.

The evaluator has two entries: a form is evaluated, or a value is called.
What one entry does between the calls of the two that it makes is a dialogue:
it states a call and goes on with whatever comes of it.

* `Call`: a call of either entry.
* `Dialogue`: a computation that has ended, or a call and what follows each of
  its outcomes.
* `Caller`: a dialogue that depends on the state, with the operations of a
  monad; a computation without calls is one (`MonadLift`).
* `Caller.settle`: the computation that is left once the outcomes of all calls
  are known; the lemmas `settle_…` say what it is for each operation.
* `Dialogue.Meets`: a contract: which calls a dialogue makes as long as the
  outcomes are as agreed, and how it ends then. `Caller.Keeps`: the contract
  for an invariant of the state.
-/
import Mathlib.Tactic
import HostedRepl.Lisp.Apply

namespace HostedRepl.Lisp

/-- A form to be evaluated in a scope, or a value to be called, and the number
of lists that may still be entered. -/
inductive Call where
  | eval (budget : Nat) (scope : Scope) (form : Value)
  | apply (budget : Nat) (f : Value) (args : List Value)

/-- How a computation on the state of an interpreter has ended. -/
abbrev Ended (α : Type) := EStateM.Result EvalError Interp α

/-- A computation that has ended, or a call in a state and what follows each of
its outcomes. -/
inductive Dialogue (α : Type) where
  | done (ended : Ended α)
  | call (c : Call) (before : Interp) (next : Ended Value → Dialogue α)

namespace Dialogue

variable {α β : Type}

/-- Go on when a dialogue has ended. -/
def bind : Dialogue α → (Ended α → Dialogue β) → Dialogue β
  | done r, k => k r
  | call c i next, k => call c i fun r => (next r).bind k

/-- The end of a dialogue, given the outcome of every call. -/
def settle (outcome : Call → Eval Value) : Dialogue α → Ended α
  | done r => r
  | call c i next => (next (outcome c i)).settle outcome

lemma settle_bind (outcome : Call → Eval Value) (d : Dialogue α) (k : Ended α → Dialogue β) :
    (d.bind k).settle outcome = (k (d.settle outcome)).settle outcome := by
  induction d with
  | done r => rfl
  | call c i next ih => exact ih (outcome c i)

/-- Every call is one in `pre`, as long as the outcomes of those before it are
in `post`, and the end is in `final` then. -/
def Meets (pre : Call → Interp → Prop) (post : Call → Interp → Ended Value → Prop)
    (final : Ended α → Prop) : Dialogue α → Prop
  | done r => final r
  | call c i next => pre c i ∧ ∀ r, post c i r → (next r).Meets pre post final

variable {pre : Call → Interp → Prop} {post : Call → Interp → Ended Value → Prop}

lemma Meets.mono {pre' : Call → Interp → Prop} {post' : Call → Interp → Ended Value → Prop}
    {final final' : Ended α → Prop} {d : Dialogue α} (h : d.Meets pre post final)
    (calls : ∀ c i, pre c i → pre' c i) (outcomes : ∀ c i r, post' c i r → post c i r)
    (ends : ∀ r, final r → final' r) : d.Meets pre' post' final' := by
  induction d with
  | done r => exact ends r h
  | call c i next ih => exact ⟨calls c i h.1, fun r hr => ih r (h.2 r (outcomes c i r hr))⟩

/-- What a dialogue keeps of each of several ends it keeps of all of them. -/
lemma Meets.all {ι : Type} [Nonempty ι] {final : ι → Ended α → Prop} {d : Dialogue α}
    (h : ∀ x, d.Meets pre post (final x)) : d.Meets pre post fun r => ∀ x, final x r := by
  induction d with
  | done r => exact h
  | call c i next ih =>
      obtain ⟨x⟩ := ‹Nonempty ι›
      exact ⟨(h x).1, fun r hr => ih r fun x => (h x).2 r hr⟩

lemma Meets.bind {d : Dialogue α} {k : Ended α → Dialogue β} {middle : Ended α → Prop}
    {final : Ended β → Prop} (first : d.Meets pre post middle)
    (rest : ∀ r, middle r → (k r).Meets pre post final) : (d.bind k).Meets pre post final := by
  induction d with
  | done r => exact rest r first
  | call c i next ih => exact ⟨first.1, fun r hr => ih r (first.2 r hr)⟩

end Dialogue

/-! ### Dialogues with a state -/

/-- A dialogue that depends on the state. -/
def Caller (α : Type) : Type := Interp → Dialogue α

namespace Caller

variable {α β : Type}

instance : Monad Caller where
  pure a := fun i => .done (.ok a i)
  bind x f := fun i => (x i).bind fun
    | .ok a i => f a i
    | .error e i => .done (.error e i)

/-- A computation without calls. -/
instance : MonadLift Eval Caller where
  monadLift x := fun i => .done (x i)

/-- One call. -/
def call (c : Call) : Caller Value := fun i => .call c i .done

/-- A dialogue in the namespace of a closure. -/
def inNamespace (own : String) (x : Caller α) : Caller α := fun i =>
  (x { i with current := own }).bind fun
    | .ok a i' => .done (.ok a (i'.leave own i.current))
    | .error e i' => .done (.error e (i'.leave own i.current))

/-- The results at each item, collected last one first. -/
def collect (f : α → Caller β) : List α → (acc : List β) → Caller (List β)
  | [], acc => return acc.reverse
  | a :: as, acc => do
    let b ← f a
    collect f as (b :: acc)

/-- The items with a true result, collected last one first. -/
def sift (f : α → Caller Value) : List α → (acc : List α) → Caller (List α)
  | [], acc => return acc.reverse
  | a :: as, acc => do
    let v ← f a
    sift f as (if v.isTruthy then a :: acc else acc)

/-- The results combined from the left. -/
def combine (f : β → α → Caller β) : (acc : β) → List α → Caller β
  | acc, [] => return acc
  | acc, a :: as => do
    let acc ← f acc a
    combine f acc as

/-! ### Known outcomes -/

variable (outcome : Call → Eval Value)

/-- The computation that is left once the outcome of every call is known. -/
def settle (x : Caller α) : Eval α := fun i => (x i).settle outcome

@[simp]
lemma settle_pure (a : α) : settle outcome (pure a) = pure a := rfl

@[simp]
lemma settle_lift (x : Eval α) : settle outcome (liftM x) = x := rfl

@[simp]
lemma settle_call (c : Call) : settle outcome (call c) = outcome c := rfl

@[simp]
lemma settle_bind (x : Caller α) (f : α → Caller β) :
    settle outcome (x >>= f) = settle outcome x >>= fun a => settle outcome (f a) := by
  funext i
  refine (Dialogue.settle_bind outcome (x i) _).trans ?_
  change _ = EStateM.bind (settle outcome x) (fun a => settle outcome (f a)) i
  rw [EStateM.bind, settle]
  cases Dialogue.settle outcome (x i) <;> rfl

@[simp]
lemma settle_inNamespace (own : String) (x : Caller α) :
    settle outcome (inNamespace own x) = Lisp.inNamespace own (settle outcome x) := by
  funext i
  refine (Dialogue.settle_bind outcome (x { i with current := own }) _).trans ?_
  rw [Lisp.inNamespace, settle]
  cases Dialogue.settle outcome (x { i with current := own }) <;> rfl

end Caller

/-! ### Invariants -/

/-- The state is in `S`, and the value, if there is one, in `A`. -/
def Ended.Sat {α : Type} (S : Interp → Prop) (A : α → Prop) : Ended α → Prop
  | .ok a i => A a ∧ S i
  | .error _ i => S i

namespace Caller

variable {α : Type}

/-- From states in `S` only calls in `G` are made, and they and the end leave states in `S`, as
long as the values of the calls are in `V`; the value at the end is in `A`. -/
def Keeps (G : Call → Prop) (S : Interp → Prop) (V : Value → Prop) (x : Caller α)
    (A : α → Prop) : Prop :=
  ∀ i, S i → (x i).Meets (fun c i => G c ∧ S i) (fun _ _ => Ended.Sat S V) (Ended.Sat S A)

end Caller

end HostedRepl.Lisp
