/-
Two runs of the evaluator in step.

* `Tandem`: how two runs correspond: which values are alike in a state, which
  states correspond, and what can become of a state. The second run may have
  more budget than the first.
* `Tandem.Lawful`: each operation on the state leads from corresponding states
  to corresponding states, and what is alike stays alike. This is all that is
  asked of a correspondence.
* `Tandem.Step`: two dialogues make corresponding calls and end alike, as long
  as their calls do; `Tandem.Pair`: two computations do so from corresponding
  states. There is one rule for each operation of `Caller`.
-/
import Mathlib.Tactic
import HostedRepl.Proofs.Lisp.CallTree
import HostedRepl.Proofs.Lisp.Likeness

namespace HostedRepl.Lisp

/-- How two runs of the evaluator correspond. -/
structure Tandem where
  /-- What is alike in a state of the first run. -/
  like : Interp → Likeness
  /-- The states of the two runs. -/
  state : Interp → Interp → Prop
  /-- What can become of a state of the first run. -/
  later : Interp → Interp → Prop
  /-- The second run may have more budget; what it does is open once the first has none left. -/
  richer : Prop

namespace Tandem

/-- Both states move on. -/
structure Move (T : Tandem) (i i' j' : Interp) : Prop where
  later : T.later i i'
  state : T.state i' j'

/-- Each operation on the state moves like states to like states. -/
structure Lawful (T : Tandem) : Prop where
  faithful : ∀ i, (T.like i).Faithful
  refl : ∀ i, T.later i i
  trans : ∀ {i j k}, T.later i j → T.later j k → T.later i k
  value : ∀ {i j v w}, T.later i j → (T.like i).value v w → (T.like j).value v w
  scope : ∀ {i j s t}, T.later i j → (T.like i).scope s t → (T.like j).scope s t
  current : ∀ {i j}, T.state i j → j.current = i.current
  global : ∀ {i j} (name : String), T.state i j →
    Option.Rel (T.like i).value (i.global? name) (j.global? name)
  define : ∀ {i j v w} (name : String), T.state i j → (T.like i).value v w →
    T.Move i (i.define name v) (j.define name w)
  enter : ∀ {i j} (ns : String), T.state i j → T.Move i (i.enter ns) (j.enter ns)
  print : ∀ {i j} (text : String), T.state i j → T.Move i (i.print text) (j.print text)
  made : ∀ {i j}, T.state i j →
    (T.like { i with closures := i.closures + 1 }).id i.closures j.closures ∧
      T.Move i { i with closures := i.closures + 1 } { j with closures := j.closures + 1 }
  /-- What is alike does not depend on the namespace. -/
  like_at : ∀ i ns, T.like { i with current := ns } = T.like i
  visit : ∀ {i j} (ns : String), T.state i j →
    T.state { i with current := ns } { j with current := ns }
  back : ∀ {i j i' j'} (own : String), T.state i j → T.later { i with current := own } i' →
    T.state i' j' → T.Move i (i'.leave own i.current) (j'.leave own j.current)

variable (T : Tandem)

/-- The budgets of two corresponding calls. -/
def Budget (b b' : ℕ) : Prop := b = b' ∨ T.richer ∧ b ≤ b'

/-- Calls of like things. -/
inductive Twin (i : Interp) : Call → Call → Prop
  | eval {b b' : ℕ} {s t : Scope} {form form' : Value} : T.Budget b b' → (T.like i).scope s t →
      (T.like i).value form form' → Twin i (.eval b s form) (.eval b' t form')
  | apply {b b' : ℕ} {f g : Value} {vs ws : List Value} : T.Budget b b' → (T.like i).value f g →
      List.Forall₂ (T.like i).value vs ws → Twin i (.apply b f vs) (.apply b' g ws)

variable {α β γ δ : Type}

/-- Two ends that correspond, after the first run was in the state `i`. -/
inductive Match (A : Interp → α → β → Prop) (i : Interp) : Ended α → Ended β → Prop
  | ok {a : α} {b : β} {i' j' : Interp} : T.Move i i' j' → A i' a b →
      Match A i (.ok a i') (.ok b j')
  | error {i' j' : Interp} (e : EvalError) : T.Move i i' j' →
      Match A i (.error e i') (.error e j')
  | short {i' : Interp} {r : Ended β} : T.richer → Match A i (.error .stackOverflow i') r

/-- What a value is compared by. -/
abbrev values : Interp → Value → Value → Prop := fun i => (T.like i).value

/-- What holds of two things now holds of them later. -/
def Lasting (R : Interp → α → β → Prop) : Prop :=
  ∀ i j a b, T.later i j → R i a b → R j a b

/-- Two dialogues that make corresponding calls, as long as these end so, and end so themselves. -/
inductive Step (A : Interp → α → β → Prop) (i : Interp) : Dialogue α → Dialogue β → Prop
  | done {r : Ended α} {r' : Ended β} : T.Match A i r r' → Step A i (.done r) (.done r')
  | short {i' : Interp} {d : Dialogue β} : T.richer → Step A i (.done (.error .stackOverflow i')) d
  | call {i' j' : Interp} {c c' : Call} {next : Ended Value → Dialogue α}
      {next' : Ended Value → Dialogue β} : T.state i' j' → T.Twin i' c c' →
      (∀ r r', T.Match T.values i' r r' → Step A i (next r) (next' r')) →
      Step A i (.call c i' next) (.call c' j' next')

/-- From corresponding states, from `i` on, two computations go in step. -/
def Pair (A : Interp → α → β → Prop) (i : Interp) (x : Caller α) (y : Caller β) : Prop :=
  ∀ i' j', T.Move i i' j' → T.Step A i' (x i') (y j')

variable {T} {A : Interp → α → β → Prop} {B : Interp → γ → δ → Prop} {i : Interp}

/-- What follows corresponding ends goes in step. Without budget nothing may follow. -/
lemma Step.bind {i₀ : Interp} {d : Dialogue α} {d' : Dialogue β} {k : Ended α → Dialogue γ}
    {k' : Ended β → Dialogue δ} (h : T.Step A i d d')
    (rest : ∀ r r', T.Match A i r r' → T.Step B i₀ (k r) (k' r'))
    (short : ∀ j, ∃ j', k (.error .stackOverflow j) = .done (.error .stackOverflow j')) :
    T.Step B i₀ (d.bind k) (d'.bind k') := by
  induction h with
  | done m => exact rest _ _ m
  | @short i' d rich =>
      obtain ⟨j', eq⟩ := short i'
      change T.Step B i₀ (k (.error .stackOverflow i')) _
      rw [eq]
      exact .short rich
  | call state twin _ ih => exact .call state twin ih

/-- Computations without calls. -/
lemma Pair.lift {x : Eval α} {y : Eval β}
    (h : ∀ i' j', T.Move i i' j' → T.Match A i' (x i') (y j')) :
    T.Pair A i (liftM x) (liftM y) :=
  fun i' j' m => .done (h i' j' m)

/-- Corresponding calls. -/
lemma Pair.call {c c' : Call} (h : ∀ i', T.later i i' → T.Twin i' c c') :
    T.Pair T.values i (Caller.call c) (Caller.call c') :=
  fun _ _ m => .call m.state (h _ m.later) fun _ _ r => .done r

namespace Lawful

variable (law : T.Lawful)
include law

/-! ### Later states -/

lemma move {j : Interp} (h : T.state i j) : T.Move i i j := ⟨law.refl i, h⟩

lemma moves {i' i'' j'' : Interp} (first : T.later i i') (h : T.Move i' i'' j'') : T.Move i i'' j'' :=
  ⟨law.trans first h.later, h.state⟩

lemma lasting : T.Lasting T.values := fun _ _ _ _ => law.value

lemma values_mono {i' : Interp} (h : T.later i i') {vs ws : List Value}
    (hs : List.Forall₂ (T.like i).value vs ws) : List.Forall₂ (T.like i').value vs ws :=
  hs.imp fun _ _ => law.value h

lemma vars_mono {i' : Interp} (h : T.later i i') {vars vars' : Table Value}
    (hs : (T.like i).Vars vars vars') : (T.like i').Vars vars vars' :=
  hs.imp fun _ _ hv => ⟨hv.1, law.value h hv.2⟩

lemma pair_mono {i' : Interp} {x : Caller α} {y : Caller β} (h : T.Pair A i x y)
    (later : T.later i i') : T.Pair A i' x y :=
  fun _ _ m => h _ _ (law.moves later m)

lemma match_mono {i' : Interp} {r : Ended α} {r' : Ended β} (h : T.Match A i' r r')
    (later : T.later i i') : T.Match A i r r' := by
  cases h with
  | ok move ha => exact .ok (law.moves later move) ha
  | error e move => exact .error e (law.moves later move)
  | short rich => exact .short rich

lemma step_mono {i' : Interp} {d : Dialogue α} {d' : Dialogue β} (h : T.Step A i' d d')
    (later : T.later i i') : T.Step A i d d' := by
  induction h with
  | done m => exact .done (law.match_mono m later)
  | short rich => exact .short rich
  | call state twin _ ih => exact .call state twin ih

/-! ### Rules -/

lemma pair_pure {a : α} {b : β} (h : ∀ i', T.later i i' → A i' a b) :
    T.Pair A i (pure a) (pure b) :=
  fun _ _ m => .done (.ok (law.move m.state) (h _ m.later))

lemma pair_bind {x : Caller α} {y : Caller β} {f : α → Caller γ} {g : β → Caller δ}
    (first : T.Pair A i x y)
    (rest : ∀ i' a b, T.later i i' → A i' a b → T.Pair B i' (f a) (g b)) :
    T.Pair B i (x >>= f) (y >>= g) := by
  intro i₀ j₀ m
  refine (first i₀ j₀ m).bind (fun r r' h => ?_) fun j => ⟨j, rfl⟩
  cases h with
  | @ok a b i₁ j₁ move ha =>
      have next := rest i₁ a b (law.trans m.later move.later) ha
      exact law.step_mono (next i₁ j₁ (law.move move.state)) move.later
  | error e move => exact .done (.error e move)
  | short rich => exact .short rich

/-- Results that need no state. -/
lemma pair_result {x : Except EvalError α} {y : Except EvalError β}
    (h : ∀ i', T.later i i' → Agree (A i') x y) :
    T.Pair A i (liftM (Eval.lift x)) (liftM (Eval.lift y)) := by
  refine .lift fun i' j' m => ?_
  have agree := h i' m.later
  cases agree with
  | ok ha => exact .ok (law.move m.state) ha
  | error e => exact .error e (law.move m.state)

lemma pair_throw (e : EvalError) :
    T.Pair A i (liftM (throw e : Eval α)) (liftM (throw e : Eval β)) :=
  .lift fun _ _ m => .error e (law.move m.state)

/-- Computations in the namespace of a closure. -/
lemma pair_inNamespace (own : String) {x y : Caller Value}
    (h : ∀ i', T.later i i' → T.Pair T.values { i' with current := own } x y) :
    T.Pair T.values i (Caller.inNamespace own x) (Caller.inNamespace own y) := by
  intro i₀ j₀ m
  have visited := h i₀ m.later _ _ (law.move (law.visit own m.state))
  refine visited.bind (fun r r' ended => ?_) fun j => ⟨_, rfl⟩
  cases ended with
  | @ok v w i₁ j₁ move hv =>
      refine .done (.ok (law.back own m.state move.later move.state) ?_)
      rw [values, Interp.leave]
      split
      · rwa [law.like_at]
      · exact hv
  | error e move => exact .done (.error e (law.back own m.state move.later move.state))
  | short rich => exact .short rich

/-- Results collected from like items. -/
lemma pair_collect {R : Interp → α → β → Prop} {f : α → Caller γ} {g : β → Caller δ}
    (before : T.Lasting R) (after : T.Lasting B)
    (h : ∀ i', T.later i i' → ∀ a b, R i' a b → T.Pair B i' (f a) (g b))
    {as : List α} {bs : List β} (items : List.Forall₂ (R i) as bs)
    {acc : List γ} {acc' : List δ} (hacc : List.Forall₂ (B i) acc acc') :
    T.Pair (fun i => List.Forall₂ (B i)) i (Caller.collect f as acc)
      (Caller.collect g bs acc') := by
  induction as generalizing i bs acc acc' with
  | nil =>
      cases items
      exact law.pair_pure fun i' later =>
        List.forall₂_reverse_iff.mpr (hacc.imp fun _ _ => after _ _ _ _ later)
  | cons a as ih =>
      cases items with
      | cons hab items =>
          refine law.pair_bind (h i (law.refl i) _ _ hab) fun i' c d later hcd => ?_
          exact ih (fun i'' later' => h i'' (law.trans later later'))
            (items.imp fun _ _ => before _ _ _ _ later)
            (.cons hcd (hacc.imp fun _ _ => after _ _ _ _ later))

/-- Like items of which like ones are kept. -/
lemma pair_sift {f g : Value → Caller Value}
    (h : ∀ i', T.later i i' → ∀ v w, T.values i' v w → T.Pair T.values i' (f v) (g w))
    {vs ws acc acc' : List Value} (items : List.Forall₂ (T.values i) vs ws)
    (hacc : List.Forall₂ (T.values i) acc acc') :
    T.Pair (fun i => List.Forall₂ (T.values i)) i (Caller.sift f vs acc)
      (Caller.sift g ws acc') := by
  induction vs generalizing i ws acc acc' with
  | nil =>
      cases items
      exact law.pair_pure fun i' later =>
        List.forall₂_reverse_iff.mpr (law.values_mono later hacc)
  | cons v vs ih =>
      cases items with
      | @cons _ w _ ws hv items =>
          refine law.pair_bind (h i (law.refl i) _ _ hv) fun i' t u later ht => ?_
          refine ih (fun i'' later' => h i'' (law.trans later later'))
            (law.values_mono later items) ?_
          rw [(law.faithful i').isTruthy_eq ht]
          split
          · exact .cons (law.value later hv) (law.values_mono later hacc)
          · exact law.values_mono later hacc

/-- Results combined from like items. -/
lemma pair_combine {R : Interp → α → β → Prop} {f : γ → α → Caller γ} {g : δ → β → Caller δ}
    (before : T.Lasting R) (after : T.Lasting B)
    (h : ∀ i', T.later i i' → ∀ c d a b, B i' c d → R i' a b → T.Pair B i' (f c a) (g d b))
    {as : List α} {bs : List β} (items : List.Forall₂ (R i) as bs)
    {acc : γ} {acc' : δ} (hacc : B i acc acc') :
    T.Pair B i (Caller.combine f acc as) (Caller.combine g acc' bs) := by
  induction as generalizing i bs acc acc' with
  | nil =>
      cases items
      exact law.pair_pure fun i' later => after _ _ _ _ later hacc
  | cons a as ih =>
      cases items with
      | cons hab items =>
          refine law.pair_bind (h i (law.refl i) _ _ _ _ hacc hab) fun i' c d later hcd => ?_
          exact ih (fun i'' later' => h i'' (law.trans later later'))
            (items.imp fun _ _ => before _ _ _ _ later) hcd

end Lawful

end Tandem

end HostedRepl.Lisp
