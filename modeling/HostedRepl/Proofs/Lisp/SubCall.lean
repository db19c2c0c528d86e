/-
The calls that a call makes.

* `Call.All`: everything that a call is given is in a class of values.
* `Call.Makes`: which calls a call can make. Forms lead to their parts,
  closures to their bodies, and higher-order functions to calls with fewer
  arguments or with items of an argument.
* `Call.grows_body`: a call of members makes only such calls, and ends with a
  member, as long as its calls do, while the class may grow. What follows for
  whole evaluations is derived from this alone; `Growing.Lawful.step` states it
  for one step of a run.
* `Call.steady_body`, `Admissible.step`: the same for a class that does not grow.
-/
import HostedRepl.Proofs.Lisp.CallTree
import HostedRepl.Proofs.Lisp.Growing

namespace HostedRepl.Lisp

namespace Call

/-- All values that the call is given are in `V`. -/
def All (V : Value → Prop) : Call → Prop
  | .eval _ scope form => (∀ x ∈ scope, V x.2) ∧ V form
  | .apply _ f args => V f ∧ ∀ v ∈ args, V v

/-- A call can make another one, whose values are in `V` where the first does not tell them. -/
inductive Makes (V : Value → Prop) : Call → Call → Prop
  /-- An item of a vector. -/
  | item {b : Nat} {scope : Scope} {items : List Value} {item : Value} :
      item ∈ items → Makes V (.eval b scope (.vector items)) (.eval b scope item)
  /-- A part of a list, in a scope that may have grown by bindings. -/
  | part {b : Nat} {scope scope' : Scope} {items : List Value} {part : Value} :
      part ∈ items → (∀ x ∈ scope', V x.2) →
      Makes V (.eval (b + 1) scope (.list items)) (.eval b scope' part)
  /-- The form of a binding. -/
  | binding {b : Nat} {scope scope' : Scope} {items bs : List Value} {part : Value} :
      .vector bs ∈ items → part ∈ bs → (∀ x ∈ scope', V x.2) →
      Makes V (.eval (b + 1) scope (.list items)) (.eval b scope' part)
  /-- The call that a list stands for. -/
  | head {b : Nat} {scope : Scope} {items args : List Value} {f : Value} :
      V f → (∀ v ∈ args, V v) → Makes V (.eval (b + 1) scope (.list items)) (.apply b f args)
  /-- A form of a closure's body. -/
  | body {b : Nat} {f : Closure} {args : List Value} {scope : Scope} {form : Value} :
      form ∈ f.body → (∀ x ∈ scope, V x.2) →
      Makes V (.apply b (.closure f) args) (.eval b scope form)
  /-- A call without arguments, from `reduce` of an empty sequence. -/
  | start {b : Nat} {h : HigherOrder} {g : Value} {args : List Value} :
      h ≠ .apply → args ≠ [] → Makes V (.apply b (.builtin (.higher h)) (g :: args)) (.apply b g [])
  /-- A call with an item of a sequence. -/
  | each {b : Nat} {h : HigherOrder} {g xs v : Value} {args items : List Value} :
      h ≠ .apply → xs ∈ args → xs.seq? = some items → v ∈ items →
      Makes V (.apply b (.builtin (.higher h)) (g :: args)) (.apply b g [v])
  /-- A call with what has been combined so far and an item of a sequence. -/
  | fold {b : Nat} {h : HigherOrder} {g xs acc v : Value} {args items : List Value} :
      h ≠ .apply → xs ∈ args → xs.seq? = some items → v ∈ items → V acc →
      Makes V (.apply b (.builtin (.higher h)) (g :: args)) (.apply b g [acc, v])
  /-- A call with all arguments but the last and the items of the last. -/
  | spread {b : Nat} {g last : Value} {args items : List Value} :
      last.seq? = some items →
      Makes V (.apply b (.builtin (.higher .apply)) (g :: (args ++ [last])))
        (.apply b g (args ++ items))

variable {V : Value → Prop}

lemma All.mono {W : Value → Prop} {c : Call} (h : c.All V) (le : ∀ v, V v → W v) : c.All W := by
  cases c with
  | eval => exact ⟨fun x hx => le x.2 (h.1 x hx), le _ h.2⟩
  | apply => exact ⟨le _ h.1, fun v hv => le v (h.2 v hv)⟩

variable (comp : Composite V)
include comp

/-- Calls of members make calls of members. -/
lemma Makes.all {c c' : Call} (makes : c.Makes V c') (hc : c.All V) : c'.All V := by
  have parts {v : Value} {items : List Value} (hv : V v) (seq : v.seq? = some items) :
      ∀ w ∈ items, V w := comp.items v items hv seq
  cases makes with
  | item mem => exact ⟨hc.1, parts hc.2 rfl _ mem⟩
  | part mem hscope => exact ⟨hscope, parts hc.2 rfl _ mem⟩
  | binding mem mem' hscope => exact ⟨hscope, parts (parts hc.2 rfl _ mem) rfl _ mem'⟩
  | head hf hargs => exact ⟨hf, hargs⟩
  | body mem hscope => exact ⟨hscope, comp.body _ hc.1 _ mem⟩
  | start => exact ⟨hc.2 _ (by simp), by simp⟩
  | each _ mem seq mem' =>
      have hv := parts (hc.2 _ (List.mem_cons_of_mem _ mem)) seq _ mem'
      exact ⟨hc.2 _ (by simp), by simpa using hv⟩
  | fold _ mem seq mem' hacc =>
      have hv := parts (hc.2 _ (List.mem_cons_of_mem _ mem)) seq _ mem'
      exact ⟨hc.2 _ (by simp), by simpa using ⟨hacc, hv⟩⟩
  | spread seq =>
      refine ⟨hc.2 _ (by simp), fun v hv => ?_⟩
      rcases List.mem_append.mp hv with hv | hv
      · exact hc.2 v (by simp [hv])
      · exact parts (hc.2 _ (by simp)) seq v hv

end Call

/-! ### The work of each call -/

namespace Call

open Caller

section Growing

open Growing.Lawful

variable {K : Growing} (law : K.Lawful) {G : K.World → Call → Prop} {w : K.World} {b : Nat}
  {scope : Scope}
include law

lemma grows_sequence {last : Value} {forms : List Value}
    (calls : ∀ w', K.later w w' → ∀ form ∈ forms, G w' (.eval b scope form))
    (hlast : K.value w last) : K.Grows G w (sequence b scope last forms) K.value := by
  refine law.grows_combine law.lasting_value (fun w' _ later _ form h => ?_) hlast
  exact law.grows_call fun w'' further => calls w'' (law.trans later further) form h

lemma grows_each {forms : List Value}
    (calls : ∀ w', K.later w w' → ∀ form ∈ forms, G w' (.eval b scope form)) :
    K.Grows G w (each b scope forms) fun w vs => ∀ v ∈ vs, K.value w v :=
  law.grows_collect law.lasting_value
    (fun form h => law.grows_call fun w' later => calls w' later form h) (by simp)

lemma grows_choose {test : Value} {yes no : Caller Value} {A : K.World → Value → Prop}
    (calls : ∀ w', K.later w w' → G w' (.eval b scope test)) (hyes : K.Grows G w yes A)
    (hno : K.Grows G w no A) : K.Grows G w (choose b scope test yes no) A := by
  refine law.grows_bind (law.grows_call calls) fun w' t later _ => ?_
  split
  · exact law.grows_mono later hyes
  · exact law.grows_mono later hno

lemma grows_bindings {bs : List Value} (hscope : ∀ x ∈ scope, K.value w x.2)
    (calls : ∀ w', K.later w w' → ∀ scope : Scope, (∀ x ∈ scope, K.value w' x.2) →
      ∀ form ∈ bs, G w' (.eval b scope form)) :
    K.Grows G w (bindings b scope bs) fun w scope => ∀ x ∈ scope, K.value w x.2 := by
  fun_induction bindings b scope bs generalizing w with
  | case1 scope name form more ih =>
      refine law.grows_bind (law.grows_call fun w' later =>
        calls w' later scope (law.vars later hscope) form (by simp)) fun w' v later hv => ?_
      refine ih v (fun x hx => ?_) fun w'' further scope hscope form h =>
        calls w'' (law.trans later further) scope hscope form (by simp [h])
      rcases List.mem_cons.mp hx with rfl | hx
      · exact hv
      · exact law.vars later hscope x hx
  | case2 => exact law.grows_throw _
  | case3 => exact law.grows_pure fun w' later => law.vars later hscope

lemma grows_define (name : String) {v : Value} (hv : K.value w v) :
    K.Grows G w (liftM (define name v)) K.value :=
  grows_lift fun _ _ later hi =>
    law.ends_ok ((law.composite _).atom _ trivial) (law.define name hi (law.lasting later v hv))

/-- Making a closure of members leads to a world in which it is. -/
lemma ends_makeClosure (name : Option String) {operands : List Value}
    (hscope : ∀ x ∈ scope, K.value w x.2) (hoperands : ∀ v ∈ operands, K.value w v) {i : Interp}
    (hi : K.state w i) : K.Ends w K.value (makeClosure name scope operands i) := by
  rcases makeClosure_cases name scope operands i with ⟨e, failed⟩ | ⟨f, made, id, same, body, deep⟩
  · rw [failed]
    exact law.ends_error e hi
  · rw [made]
    subst same
    have forms : ∀ form ∈ f.body, K.value w form := fun form h => hoperands form (body form h)
    obtain ⟨w', later, hf, hi'⟩ := law.made hi hscope forms id deep.1 deep.2
    exact ⟨w', later, hf, hi'⟩

lemma grows_makeClosure (name : Option String) {operands : List Value}
    (hscope : ∀ x ∈ scope, K.value w x.2) (hoperands : ∀ v ∈ operands, K.value w v) :
    K.Grows G w (liftM (makeClosure name scope operands)) K.value :=
  grows_lift fun _ _ later hi =>
    ends_makeClosure law name (law.vars later hscope) (law.values later hoperands) hi

lemma grows_defineClosure (name : String) {operands : List Value}
    (hscope : ∀ x ∈ scope, K.value w x.2) (hoperands : ∀ v ∈ operands, K.value w v) :
    K.Grows G w (liftM (defineClosure name scope operands)) K.value := by
  refine grows_lift fun w' i later hi => ?_
  obtain ⟨w'', further, made⟩ :=
    ends_makeClosure law (some name) (law.vars later hscope) (law.values later hoperands) hi
  change K.Ends w' _ (EStateM.bind (makeClosure (some name) scope operands) (define name) i)
  rw [EStateM.bind]
  cases ended : makeClosure (some name) scope operands i with
  | ok f i =>
      rw [ended] at made
      exact ⟨w'', further, (law.composite w'').atom _ trivial, law.define name made.2 made.1⟩
  | error e i =>
      rw [ended] at made
      exact ⟨w'', further, made⟩

/-- A special form evaluates its operands and the forms of its bindings. -/
lemma grows_special (form : SpecialForm) {operands : List Value}
    (hscope : ∀ x ∈ scope, K.value w x.2) (hoperands : ∀ v ∈ operands, K.value w v)
    (calls : ∀ w', K.later w w' → ∀ scope : Scope, (∀ x ∈ scope, K.value w' x.2) →
      ∀ part ∈ operands, G w' (.eval b scope part))
    (inner : ∀ w', K.later w w' → ∀ scope : Scope, (∀ x ∈ scope, K.value w' x.2) →
      ∀ bs, .vector bs ∈ operands → ∀ part ∈ bs, G w' (.eval b scope part)) :
    K.Grows G w (special b scope form operands) K.value := by
  have made (part : Value) (h : part ∈ operands) (w' : K.World) (later : K.later w w') :
      G w' (.eval b scope part) := calls w' later scope (law.vars later hscope) part h
  have operand (part : Value) (h : part ∈ operands) :
      K.Grows G w (call (.eval b scope part)) K.value := law.grows_call (made part h)
  have nil (w : K.World) : K.value w .nil := (law.composite w).atom _ trivial
  have stop : K.Grows G w (pure .nil) K.value := law.grows_pure fun w' _ => nil w'
  fun_cases special b scope form operands with
  | case1 form =>
      exact law.grows_pure fun w' later => law.lasting later form (hoperands form (by simp))
  | case3 test yes =>
      exact grows_choose law (made test (by simp)) (operand yes (by simp)) stop
  | case4 test yes no =>
      exact grows_choose law (made test (by simp)) (operand yes (by simp)) (operand no (by simp))
  | case7 test body =>
      refine grows_choose law (made test (by simp)) ?_ stop
      exact grows_sequence law (fun w' later form h => made form (by simp [h]) w' later) (nil w)
  | case8 body => exact grows_sequence law (fun w' later form h => made form h w' later) (nil w)
  | case9 name => exact grows_define law name (nil w)
  | case10 name form =>
      exact law.grows_bind (operand form (by simp)) fun w' v _ hv => grows_define law name hv
  | case12 name doc operands =>
      exact grows_defineClosure law name hscope fun v h => hoperands v (by simp [h])
  | case13 name operands =>
      exact grows_defineClosure law name hscope fun v h => hoperands v (by simp [h])
  | case15 bs body even =>
      refine law.grows_bind (grows_bindings law hscope fun w' later scope hscope form h =>
        inner w' later scope hscope bs (by simp) form h) fun w' scope later hscope => ?_
      refine grows_sequence law (fun w'' further form h => ?_) (nil w')
      exact calls w'' (law.trans later further) scope (law.vars further hscope) form (by simp [h])
  | case18 name operands =>
      exact grows_makeClosure law (some name) hscope fun v h => hoperands v (by simp [h])
  | case19 operands => exact grows_makeClosure law none hscope hoperands
  | case20 name => exact grows_lift fun w' i _ hi => law.ends_ok (nil w') (law.enter name hi)
  | _ => exact law.grows_throw _

/-- A list evaluates its parts and calls the value of its head. -/
lemma grows_list {head : Value} {operands : List Value} (hscope : ∀ x ∈ scope, K.value w x.2)
    (hitems : K.value w (.list (head :: operands))) :
    K.Grows (fun w => Makes (K.value w) (.eval (b + 1) scope (.list (head :: operands)))) w
      (list b scope head operands) K.value := by
  have items : ∀ v ∈ head :: operands, K.value w v := (law.composite w).items _ _ hitems rfl
  have inside {v : Value} (h : v ∈ operands) : v ∈ head :: operands := List.mem_cons_of_mem _ h
  rw [list]
  split
  · exact grows_special law _ hscope (fun v h => items v (inside h))
      (fun w' _ scope hscope part h => .part (inside h) hscope)
      fun w' _ scope hscope bs h part h' => .binding (inside h) h' hscope
  · refine law.grows_bind (law.grows_call fun w' later => .part (by simp) (law.vars later hscope))
      fun w' f later hf => ?_
    refine law.grows_bind (grows_each law fun w'' further form h =>
      .part (inside h) (law.vars (law.trans later further) hscope)) fun w'' args further hargs => ?_
    exact law.grows_call fun u last =>
      .head (law.lasting (law.trans further last) f hf) (law.values last hargs)

/-- A closure evaluates the forms of its body. -/
lemma grows_closure {f : Closure} {args : List Value} (hf : K.value w (.closure f))
    (hargs : ∀ v ∈ args, K.value w v) :
    K.Grows (fun w => Makes (K.value w) (.apply b (.closure f) args)) w (closure b f args)
      K.value := by
  rw [closure]
  split
  · refine law.grows_bind (law.grows_result fun w' later =>
      (law.composite w').bind (law.lasting later _ hf) (law.values later hargs))
      fun w' vars later hvars => ?_
    have scope : ∀ x ∈ vars ++ f.scope, K.value w' x.2 := fun x hx =>
      (List.mem_append.mp hx).elim (hvars x)
        ((law.composite w').scope f (law.lasting later _ hf) x)
    refine law.grows_inNamespace (grows_sequence law (fun w'' further form h => ?_) ?_)
    · exact .body h (law.vars further scope)
    · exact (law.composite w').atom .nil trivial
  · exact law.grows_throw _

/-- A sequence argument gives its items. -/
lemma grows_seqArg (h : HigherOrder) {xs : Value} (hxs : K.value w xs) :
    K.Grows G w (liftM (Eval.lift (seqArg (.higher h) xs))) fun w items =>
      xs.seq? = some items ∧ ∀ v ∈ items, K.value w v := by
  refine law.grows_result fun w' later items found => ⟨?_, ?_⟩
  · rw [seqArg] at found
    split at found
    · rename_i items' seq
      cases found
      exact seq
    · cases found
  · exact (law.composite w').seqArg _ (law.lasting later xs hxs) items found

/-- A higher-order function calls its first argument. -/
lemma grows_higher (h : HigherOrder) {args : List Value} (hargs : ∀ v ∈ args, K.value w v) :
    K.Grows (fun w => Makes (K.value w) (.apply b (.builtin (.higher h)) args)) w (higher b h args)
      fun w => Built (K.value w) := by
  fun_cases higher b h args with
  | case1 g xs =>
      refine law.grows_bind (grows_seqArg law .map (hargs xs (by simp)))
        fun w' items later hitems => ?_
      refine law.grows_bind (law.grows_collect law.lasting_value (fun v hv => ?_) (by simp))
        fun w'' vs _ hvs => law.grows_pure fun u last => .list (law.values last hvs)
      exact law.grows_call fun w'' _ => .each (by decide) (by simp) hitems.1 hv
  | case2 g xs =>
      refine law.grows_bind (grows_seqArg law .filter (hargs xs (by simp)))
        fun w' items later hitems => ?_
      refine law.grows_bind (law.grows_sift law.lasting_value (fun v hv => ?_) hitems.2 (by simp))
        fun w'' vs _ hvs => law.grows_pure fun u last => .list (law.values last hvs)
      exact law.grows_call fun w'' _ => .each (by decide) (by simp) hitems.1 hv
  | case3 g xs =>
      refine law.grows_bind (grows_seqArg law .reduce (hargs xs (by simp)))
        fun w' items later hitems => ?_
      cases items with
      | nil =>
          exact grows_imp (law.grows_call fun w'' _ => .start (by decide) (by simp))
            fun w v hv => .member hv
      | cons first rest =>
          refine grows_imp (law.grows_combine law.lasting_value (fun w'' acc _ hacc v hv => ?_)
            (hitems.2 first (by simp))) fun w v hv => .member hv
          exact law.grows_call fun u last => .fold (by decide) (by simp) hitems.1
            (List.mem_cons_of_mem first hv) (law.lasting last acc hacc)
  | case4 g init xs =>
      refine law.grows_bind (grows_seqArg law .reduce (hargs xs (by simp)))
        fun w' items later hitems => ?_
      refine grows_imp (law.grows_combine law.lasting_value (fun w'' acc _ hacc v hv => ?_)
        (law.lasting later init (hargs init (by simp)))) fun w v hv => .member hv
      exact law.grows_call fun u last =>
        .fold (by decide) (by simp) hitems.1 hv (law.lasting last acc hacc)
  | case5 g a more =>
      have parts := List.dropLast_concat_getLast (List.cons_ne_nil a more)
      have hlast := hargs _ (List.mem_cons_of_mem g (List.getLast_mem (List.cons_ne_nil a more)))
      refine law.grows_bind (grows_seqArg law .apply hlast) fun w' items later hitems => ?_
      refine grows_imp (law.grows_call fun w'' _ => ?_) fun w v hv => .member hv
      have made := @Makes.spread (K.value w'') b g _ (a :: more).dropLast _ hitems.1
      rwa [parts] at made
  | case6 => exact law.grows_result fun w' _ => yields_wrongArity _ _

/-- **What a call does**: it makes only calls that it can make, and ends in a later world with a
value in the class, as long as its calls do. -/
theorem grows_body {c : Call} (hc : c.All (K.value w)) :
    K.Grows (fun w => c.Makes (K.value w)) w c.body K.value := by
  fun_cases body c with
  | case1 b scope name =>
      refine grows_lift fun w' i later hi => ?_
      have found := (law.holds hi).resolve (law.vars later hc.1) name
      cases ended : resolve scope name i with
      | ok v j =>
          rw [ended] at found
          obtain ⟨hv, rfl⟩ := found
          exact law.ends_ok hv hi
      | error e j =>
          rw [ended] at found
          obtain rfl := found
          exact law.ends_error e hi
  | case2 b scope =>
      exact law.grows_pure fun w' _ => (law.composite w').list [] (by simp) (by decide)
  | case3 scope head operands => exact law.grows_throw _
  | case4 scope b head operands => exact grows_list law hc.1 hc.2
  | case5 b scope items =>
      refine law.grows_bind (grows_each law fun w' _ form h => .item h) fun w' vs _ hvs => ?_
      exact law.grows_result fun w'' further =>
        (law.composite w'').bounded (.vector (law.values further hvs))
  | case6 b scope v => exact law.grows_pure fun w' later => law.lasting later v hc.2
  | case7 b f args => exact grows_closure law hc.1 hc.2
  | case8 b p args =>
      refine law.grows_bind (A := fun w => Built (K.value w)) (grows_lift fun w' i later hi => ?_)
        fun w' v _ hv => law.grows_bounded hv
      have run := (law.composite w').run p (i := i) (law.values later hc.2)
      cases ended : p.run args i with
      | ok v j =>
          rw [ended] at run
          obtain ⟨hv, text, rfl | rfl⟩ := run
          · exact law.ends_ok hv (law.print text hi)
          · exact law.ends_ok hv hi
      | error e j =>
          rw [ended] at run
          obtain ⟨text, rfl | rfl⟩ := run
          · exact law.ends_error e (law.print text hi)
          · exact law.ends_error e hi
  | case9 b h args =>
      exact law.grows_bind (grows_higher law h hc.2) fun w' v _ hv => law.grows_bounded hv
  | case10 b v args => exact law.grows_throw _

end Growing

/-! ### Classes that do not grow -/

/-- The work keeps all global variables in `V`, makes only calls in `G`, and ends with a value in
`A`. -/
abbrev Steady {α : Type} (V : Value → Prop) (G : Call → Prop) (x : Caller α) (A : α → Prop) :
    Prop :=
  Keeps G (Interp.Holds V) V x A

variable {V : Value → Prop} {G : Call → Prop} {b : Nat} {scope : Scope} (adm : Admissible V)
include adm

lemma steady_sequence {last : Value} {forms : List Value}
    (calls : ∀ form ∈ forms, G (.eval b scope form)) (hlast : V last) :
    Steady V G (sequence b scope last forms) V :=
  (grows_sequence (Growing.lawful_constant adm) (fun _ _ => calls) hlast).keeps

/-- A call keeps to a class that does not grow, as long as its calls do. -/
theorem steady_body {c : Call} (hc : c.All V) : Steady V (c.Makes V) c.body V :=
  (grows_body (Growing.lawful_constant adm) hc).keeps

end Call

/-- A call with its state is in the class. -/
def Call.Fine (V : Value → Prop) (c : Call) (i : Interp) : Prop := c.All V ∧ i.Holds V

/-- **One step of a run**: the work of a call in the class makes calls in the class, and ends in
it, as long as its calls do. -/
theorem Admissible.step {V : Value → Prop} (adm : Admissible V) {c : Call} {i : Interp}
    (h : c.Fine V i) :
    (c.body i).Meets (fun c' i' => c.Makes V c' ∧ c'.Fine V i')
      (fun _ _ => Ended.Sat (Interp.Holds V) V) (Ended.Sat (Interp.Holds V) V) :=
  (Call.steady_body adm h.1 i h.2).mono
    (fun _ _ made => ⟨made.1, made.1.all adm.composite h.1, made.2⟩) (fun _ _ _ => id) fun _ => id

namespace Growing

variable (K : Growing)

/-- A call with its state is in the class in some world. -/
def Fine (c : Call) (i : Interp) : Prop := ∃ w, K.state w i ∧ c.All (K.value w)

/-- In whichever world a call with its state is in the class, it has ended in a later one. -/
def Outcome (c : Call) (i : Interp) (r : Ended Value) : Prop :=
  ∀ w, K.state w i → c.All (K.value w) → K.Ends w K.value r

variable {K} (law : K.Lawful)
include law

/-- Work that makes only calls in the class goes on with their outcomes. -/
lemma Grows.meets {α : Type} {G : K.World → Call → Prop} {w : K.World} {x : Caller α}
    {A : K.World → α → Prop} (h : K.Grows G w x A) {i : Interp} (hi : K.state w i)
    (inside : ∀ w' c, K.later w w' → G w' c → c.All (K.value w')) :
    (x i).Meets K.Fine K.Outcome (K.Ends w A) := by
  refine (h w i (law.refl w) hi).mono (fun c i allowed => ?_) (fun c i r hr => ?_) fun _ => id
  · obtain ⟨w', later, hi', made⟩ := allowed
    exact ⟨w', hi', inside w' c later made⟩
  · exact fun w' later hi' made => hr w' hi' (inside w' c later made)

/-- **One step of a run**: the work of a call in the class makes calls in the class, and ends in
it, as long as its calls do. -/
theorem Lawful.step {c : Call} {i : Interp} (h : K.Fine c i) :
    (c.body i).Meets K.Fine K.Outcome (K.Outcome c i) := by
  have inside {w : K.World} (hc : c.All (K.value w)) (w' : K.World) (c' : Call)
      (later : K.later w w') (made : c.Makes (K.value w') c') : c'.All (K.value w') :=
    made.all (law.composite w') (hc.mono (law.lasting later))
  have each (w : { w // K.state w i ∧ c.All (K.value w) }) :
      (c.body i).Meets K.Fine K.Outcome (K.Ends w.1 K.value) :=
    (Call.grows_body law w.2.2).meets law w.2.1 (inside w.2.2)
  obtain ⟨w, hw⟩ := h
  have given : Nonempty { w // K.state w i ∧ c.All (K.value w) } := ⟨⟨w, hw⟩⟩
  exact (Dialogue.Meets.all each).mono (fun _ _ => id) (fun _ _ _ => id)
    fun r ends w hi hc => ends ⟨w, hi, hc⟩

end Growing

end HostedRepl.Lisp
