/-
Classes of values that grow while closures are made.

A class of values that evaluation does not leave need not have all closures of
its members from the start: a closure can be added when it is made. Members stay
members, so what a computation holds on to does not leave the class.

* `Growing`: such a class, which depends on a world; a world may become a later
  one. `Growing.Lawful`: what is asked of it.
* `Growing.Ends`: a computation has ended in a later world.
* `Growing.Grows`: from a world on, a computation makes only the calls that are
  allowed, and ends in a later world, as long as its calls do. There is one rule
  for each operation of `Caller`.
* `Growing.constant`: a class that does not grow (`Admissible`).
-/
import HostedRepl.Proofs.Lisp.Admissible

namespace HostedRepl.Lisp

/-- A class of values and states that depends on a world. -/
structure Growing where
  World : Type
  /-- What can become of a world. -/
  later : World → World → Prop
  value : World → Value → Prop
  state : World → Interp → Prop

namespace Growing

/-- Each operation on the state keeps it in the class; making a closure may lead to a later world,
in which the closure is. -/
structure Lawful (K : Growing) : Prop where
  refl : ∀ w, K.later w w
  trans : ∀ {w w' w''}, K.later w w' → K.later w' w'' → K.later w w''
  lasting : ∀ {w w'}, K.later w w' → ∀ v, K.value w v → K.value w' v
  composite : ∀ w, Composite (K.value w)
  holds : ∀ {w i}, K.state w i → i.Holds (K.value w)
  define : ∀ {w i v} (name : String), K.state w i → K.value w v → K.state w (i.define name v)
  enter : ∀ {w i} (ns : String), K.state w i → K.state w (i.enter ns)
  visit : ∀ {w i} (ns : String), K.state w i → K.state w { i with current := ns }
  print : ∀ {w i} (text : String), K.state w i → K.state w (i.print text)
  made : ∀ {w i} {f : Closure}, K.state w i → (∀ x ∈ f.scope, K.value w x.2) →
    (∀ form ∈ f.body, K.value w form) → f.id = i.closures →
    f.depth = 1 + Scope.depth f.scope → f.depth ≤ depthLimit →
    ∃ w', K.later w w' ∧ K.value w' (.closure f) ∧
      K.state w' { i with closures := i.closures + 1 }

variable (K : Growing) {α β : Type}

/-- What holds of something now holds of it later. -/
def Lasting (A : K.World → α → Prop) : Prop :=
  ∀ w w' a, K.later w w' → A w a → A w' a

/-- A computation has ended in a later world. -/
def Ends (w : K.World) (A : K.World → α → Prop) (r : Ended α) : Prop :=
  ∃ w', K.later w w' ∧ r.Sat (K.state w') (A w')

/-- The call is allowed in a later world. -/
def Allows (G : K.World → Call → Prop) (w : K.World) (c : Call) (i : Interp) : Prop :=
  ∃ w', K.later w w' ∧ K.state w' i ∧ G w' c

/-- In whichever later world the call is allowed, it has ended in a world later than that. -/
def Answers (G : K.World → Call → Prop) (w : K.World) (c : Call) (i : Interp) (r : Ended Value) :
    Prop :=
  ∀ w', K.later w w' → K.state w' i → G w' c → K.Ends w' K.value r

/-- From a world on, a computation makes only calls in `G`, and ends in a later world with something
in `A`, as long as its calls end in later worlds. -/
def Grows (G : K.World → Call → Prop) (w : K.World) (x : Caller α) (A : K.World → α → Prop) :
    Prop :=
  ∀ w' i, K.later w w' → K.state w' i → (x i).Meets (K.Allows G w') (K.Answers G w') (K.Ends w' A)

namespace Lawful

variable {K} (law : K.Lawful) {G : K.World → Call → Prop} {A : K.World → α → Prop}
  {B : K.World → β → Prop} {w w' : K.World}
include law

/-! ### Later worlds -/

lemma lasting_value : K.Lasting K.value := fun _ _ v later => law.lasting later v

lemma values (later : K.later w w') {vs : List Value} (h : ∀ v ∈ vs, K.value w v) :
    ∀ v ∈ vs, K.value w' v :=
  fun v hv => law.lasting later v (h v hv)

lemma vars (later : K.later w w') {vars : Table Value} (h : ∀ x ∈ vars, K.value w x.2) :
    ∀ x ∈ vars, K.value w' x.2 :=
  fun x hx => law.lasting later x.2 (h x hx)

lemma ends_ok {a : α} {i : Interp} (ha : A w a) (hi : K.state w i) : K.Ends w A (.ok a i) :=
  ⟨w, law.refl w, ha, hi⟩

lemma ends_error (e : EvalError) {i : Interp} (hi : K.state w i) : K.Ends w A (.error e i) :=
  ⟨w, law.refl w, hi⟩

lemma ends_mono {r : Ended α} (later : K.later w w') (h : K.Ends w' A r) : K.Ends w A r := by
  obtain ⟨w'', further, ended⟩ := h
  exact ⟨w'', law.trans later further, ended⟩

lemma grows_mono {x : Caller α} (later : K.later w w') (h : K.Grows G w x A) : K.Grows G w' x A :=
  fun w'' i further => h w'' i (law.trans later further)

/-- What a dialogue does from a later world on it does from the earlier one on. -/
lemma meets_mono {d : Dialogue α} (later : K.later w w')
    (h : d.Meets (K.Allows G w') (K.Answers G w') (K.Ends w' A)) :
    d.Meets (K.Allows G w) (K.Answers G w) (K.Ends w A) := by
  refine h.mono (fun c i allowed => ?_) (fun c i r answered => ?_) fun r => law.ends_mono later
  · obtain ⟨w'', further, made⟩ := allowed
    exact ⟨w'', law.trans later further, made⟩
  · exact fun w'' further => answered w'' (law.trans later further)

/-! ### Rules -/

lemma grows_pure {a : α} (h : ∀ w', K.later w w' → A w' a) : K.Grows G w (pure a) A :=
  fun w' _ later hi => law.ends_ok (h w' later) hi

lemma grows_bind {x : Caller α} {f : α → Caller β} (first : K.Grows G w x A)
    (rest : ∀ w' a, K.later w w' → A w' a → K.Grows G w' (f a) B) : K.Grows G w (x >>= f) B := by
  intro w' i later hi
  refine (first w' i later hi).bind fun r hr => ?_
  obtain ⟨w'', further, ended⟩ := hr
  cases r with
  | ok a i =>
      have next := rest w'' a (law.trans later further) ended.1
      exact law.meets_mono further (next w'' i (law.refl w'') ended.2)
  | error e i => exact ⟨w'', further, ended⟩

lemma grows_call {c : Call} (h : ∀ w', K.later w w' → G w' c) :
    K.Grows G w (Caller.call c) K.value :=
  fun w' _ later hi =>
    ⟨⟨w', law.refl w', hi, h w' later⟩, fun _ answered =>
      answered w' (law.refl w') hi (h w' later)⟩

omit law in
/-- A computation without calls. -/
lemma grows_lift {x : Eval α}
    (h : ∀ w' i, K.later w w' → K.state w' i → K.Ends w' A (x i)) : K.Grows G w (liftM x) A := h

/-- A result that needs no state. -/
lemma grows_result {x : Except EvalError α} (h : ∀ w', K.later w w' → Yields x (A w')) :
    K.Grows G w (liftM (Eval.lift x)) A := by
  refine grows_lift fun w' i later hi => ?_
  cases x with
  | ok a => exact law.ends_ok (h w' later a rfl) hi
  | error e => exact law.ends_error e hi

/-- The check of the depth brings a built value back into the class. -/
lemma grows_bounded {v : Value} (hv : Built (K.value w) v) :
    K.Grows G w (liftM (Eval.lift v.bounded)) K.value :=
  law.grows_result fun w' later => (law.composite w').bounded (hv.mono (law.lasting later))

lemma grows_throw (e : EvalError) : K.Grows G w (liftM (throw e : Eval α)) A :=
  grows_lift fun _ _ _ => law.ends_error e

omit law in
lemma grows_imp {A B : K.World → α → Prop} {x : Caller α} (h : K.Grows G w x A)
    (le : ∀ w a, A w a → B w a) : K.Grows G w x B := by
  intro w' i later hi
  refine (h w' i later hi).mono (fun _ _ => id) (fun _ _ _ => id) fun r hr => ?_
  obtain ⟨w'', further, ended⟩ := hr
  cases r with
  | ok a i => exact ⟨w'', further, le w'' a ended.1, ended.2⟩
  | error e i => exact ⟨w'', further, ended⟩

/-- A computation in the namespace of a closure. -/
lemma grows_inNamespace {own : String} {x : Caller α} (h : K.Grows G w x A) :
    K.Grows G w (Caller.inNamespace own x) A := by
  intro w' i later hi
  have left {w : K.World} {i' : Interp} (hi' : K.state w i') :
      K.state w (i'.leave own i.current) := by
    rw [Interp.leave]
    split
    · exact law.visit _ hi'
    · exact hi'
  refine (h w' _ later (law.visit own hi)).bind fun r hr => ?_
  obtain ⟨w'', further, ended⟩ := hr
  cases r with
  | ok a i' => exact ⟨w'', further, ended.1, left ended.2⟩
  | error e i' => exact ⟨w'', further, left ended⟩

lemma grows_collect {f : α → Caller β} {as : List α} {acc : List β} (lasting : K.Lasting B)
    (hf : ∀ a ∈ as, K.Grows G w (f a) B) (hacc : ∀ b ∈ acc, B w b) :
    K.Grows G w (Caller.collect f as acc) fun w bs => ∀ b ∈ bs, B w b := by
  induction as generalizing w acc with
  | nil =>
      exact law.grows_pure fun w' later b hb =>
        lasting w w' b later (hacc b (List.mem_reverse.mp hb))
  | cons a as ih =>
      refine law.grows_bind (hf a (by simp)) fun w' b later hb => ?_
      refine ih (fun a ha => law.grows_mono later (hf a (List.mem_cons_of_mem _ ha)))
        fun c hc => ?_
      rcases List.mem_cons.mp hc with rfl | hc
      · exact hb
      · exact lasting w w' c later (hacc c hc)

lemma grows_sift {f : α → Caller Value} {as acc : List α} (lasting : K.Lasting A)
    (hf : ∀ a ∈ as, K.Grows G w (f a) K.value) (has : ∀ a ∈ as, A w a) (hacc : ∀ a ∈ acc, A w a) :
    K.Grows G w (Caller.sift f as acc) fun w as => ∀ a ∈ as, A w a := by
  induction as generalizing w acc with
  | nil =>
      exact law.grows_pure fun w' later a ha =>
        lasting w w' a later (hacc a (List.mem_reverse.mp ha))
  | cons a as ih =>
      refine law.grows_bind (hf a (by simp)) fun w' v later _ => ?_
      refine ih (fun a ha => law.grows_mono later (hf a (List.mem_cons_of_mem _ ha)))
        (fun a ha => lasting w w' a later (has a (List.mem_cons_of_mem _ ha))) fun c hc => ?_
      refine lasting w w' c later ?_
      by_cases kept : v.isTruthy
      · rw [if_pos kept] at hc
        rcases List.mem_cons.mp hc with rfl | hc
        · exact has c (by simp)
        · exact hacc c hc
      · rw [if_neg kept] at hc
        exact hacc c hc

lemma grows_combine {f : β → α → Caller β} {as : List α} {acc : β} (lasting : K.Lasting B)
    (hf : ∀ w' b, K.later w w' → B w' b → ∀ a ∈ as, K.Grows G w' (f b a) B) (hacc : B w acc) :
    K.Grows G w (Caller.combine f acc as) B := by
  induction as generalizing w acc with
  | nil => exact law.grows_pure fun w' later => lasting w w' acc later hacc
  | cons a as ih =>
      refine law.grows_bind (hf w acc (law.refl w) hacc a (by simp)) fun w' b later hb => ?_
      refine ih (fun w'' b further hb a ha => ?_) hb
      exact hf w'' b (law.trans later further) hb a (List.mem_cons_of_mem _ ha)

end Lawful

/-! ### Classes that do not grow -/

/-- A class that does not grow. -/
def constant (V : Value → Prop) : Growing :=
  ⟨Unit, fun _ _ => True, fun _ => V, fun _ => Interp.Holds V⟩

lemma lawful_constant {V : Value → Prop} (adm : Admissible V) : (constant V).Lawful where
  refl _ := trivial
  trans _ _ := trivial
  lasting _ _ := id
  composite _ := adm.composite
  holds hi := hi
  define _ hi hv := hi.define hv
  enter ns hi := hi.enter ns
  visit _ hi := hi
  print _ hi := hi
  made hi hscope hbody _ depth shallow :=
    ⟨(), trivial, adm.closure _ hscope hbody depth shallow, hi⟩

/-- In a class that does not grow, a computation keeps to the class. -/
lemma Grows.keeps {V : Value → Prop} {G : Call → Prop} {x : Caller α} {A : α → Prop}
    (h : (constant V).Grows (fun _ => G) () x fun _ => A) :
    Caller.Keeps G (Interp.Holds V) V x A := by
  intro i hi
  refine (h () i trivial hi).mono (fun c i allowed => ?_) (fun c i r hr => ?_) fun r ended => ?_
  · obtain ⟨_, _, hi, made⟩ := allowed
    exact ⟨made, hi⟩
  · exact fun _ _ _ _ => ⟨(), trivial, hr⟩
  · obtain ⟨_, _, sat⟩ := ended
    exact sat

end Growing

end HostedRepl.Lisp
