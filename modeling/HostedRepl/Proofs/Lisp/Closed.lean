/-
What the work of all calls has in common.

The work of a call is made of single calls and of computations without calls, in
a row or in the namespace of a closure. Of the computations without calls only
one changes the current namespace: that of the form `ns`. So what holds of all
others and of single calls, and is handed on to what is made of them, holds of
the work of every call that is not such a form.

* `Eval.Stays`: the computation keeps the current namespace.
* `Caller.Serial`: a class of computations with these and what is made of them
  in a row in it; `Caller.Closed`: one that is also closed under running in the
  namespace of a closure.
* `Call.enters?`: the namespace that a call enters, if it is such a form.
* `Serial.body`, `Closed.body`: **the work of every other call is in each closed
  class**, and in each serial one unless it is that of a closure.
-/
import HostedRepl.Proofs.Lisp.SubCall

namespace HostedRepl.Lisp

/-- The state at the end. -/
def Ended.state {α : Type} : Ended α → Interp
  | .ok _ i => i
  | .error _ i => i

/-! ### Computations without calls -/

namespace Eval

variable {α β : Type}

/-- The current namespace at the end is the one at the start. -/
def Stays (x : Eval α) : Prop := ∀ i, (Ended.state (x i)).current = i.current

lemma stays_pure (a : α) : Stays (pure a) := fun _ => rfl

lemma stays_throw (e : EvalError) : Stays (throw e : Eval α) := fun _ => rfl

lemma stays_lift (x : Except EvalError α) : Stays (lift x) := by
  cases x with
  | ok a => exact stays_pure a
  | error e => exact stays_throw e

lemma Stays.bind {x : Eval α} {f : α → Eval β} (first : Stays x) (rest : ∀ a, Stays (f a)) :
    Stays (x >>= f) := by
  intro i
  have before := first i
  change (Ended.state (EStateM.bind x f i)).current = _
  rw [EStateM.bind]
  generalize x i = r at before ⊢
  cases r with
  | ok a j => exact (rest a j).trans before
  | error e j => exact before

/-- A computation that looks at the state first. -/
lemma stays_get {f : Interp → Eval α} (h : ∀ i, Stays (f i)) : Stays (get >>= f) :=
  fun i => h i i

lemma stays_modify {f : Interp → Interp} (h : ∀ i, (f i).current = i.current) :
    Stays (modify f : Eval PUnit) := h

end Eval

open Eval

lemma stays_resolve (scope : Scope) (name : String) : Stays (resolve scope name) := by
  rw [resolve]
  split
  · exact stays_pure _
  · refine stays_get fun i => ?_
    split
    · exact stays_pure _
    · exact stays_throw _

lemma stays_define (name : String) (v : Value) : Stays (define name v) :=
  Stays.bind (stays_modify fun _ => rfl) fun _ => stays_get fun _ => stays_pure _

lemma stays_makeClosure (name : Option String) (scope : Scope) (operands : List Value) :
    Stays (makeClosure name scope operands) := by
  fun_cases makeClosure name scope operands with
  | case1 | case4 => exact stays_throw _
  | case2 | case3 => exact fun _ => rfl

lemma stays_defineClosure (name : String) (scope : Scope) (operands : List Value) :
    Stays (Call.defineClosure name scope operands) :=
  Stays.bind (stays_makeClosure _ _ _) fun f => stays_define name f

lemma stays_run (p : Primitive) (args : List Value) : Stays (p.run args) :=
  Stays.bind (stays_lift _) fun _ => Stays.bind (stays_modify fun _ => rfl) fun _ => stays_pure _

/-! ### Classes of computations -/

/-- A class of computations, with any kind of result, that has single calls and the computations
that keep the current namespace in it, and its members in a row. -/
structure Caller.Serial (P : (α : Type) → Caller α → Prop) : Prop where
  lift {α : Type} {x : Eval α} : Stays x → P α (liftM x)
  call (c : Call) : P Value (call c)
  bind {α β : Type} {x : Caller α} {f : α → Caller β} :
    P α x → (∀ a, P β (f a)) → P β (x >>= f)

/-- Such a class that has its members in the namespace of a closure in it, too. -/
structure Caller.Closed (P : (α : Type) → Caller α → Prop) : Prop extends Caller.Serial P where
  inNamespace {α : Type} {x : Caller α} (own : String) : P α x → P α (inNamespace own x)

/-- The namespace that a call enters. -/
def Call.enters? : Call → Option String
  | .eval (_ + 1) _ (.list (head :: .symbol name :: _)) =>
    if specialHead? head = some .enter then some name else none
  | _ => none

/-- The work of a call that enters a namespace. -/
lemma Call.body_of_enters? {c : Call} {name : String} (h : c.enters? = some name) :
    c.body = liftM (enter name) := by
  fun_cases enters? c with
  | case1 b scope head name' more named =>
      rw [enters?, if_pos named] at h
      cases h
      rw [body, list, named]
      rfl
  | case2 b scope head name' more other =>
      rw [enters?, if_neg other] at h
      cases h
  | case3 c other =>
      rw [enters?] at h
      · cases h
      · exact other

namespace Caller.Serial

variable {P : (α : Type) → Caller α → Prop} (serial : Serial P)
include serial

lemma pure {α : Type} (a : α) : P α (pure a) := serial.lift (stays_pure a)

lemma throw {α : Type} (e : EvalError) : P α (liftM (throw e : Eval α)) :=
  serial.lift (stays_throw e)

lemma result {α : Type} (x : Except EvalError α) : P α (liftM (Eval.lift x)) :=
  serial.lift (stays_lift x)

section Loops

variable {α β : Type}

lemma collect {f : α → Caller β} (h : ∀ a, P β (f a)) (as : List α) (acc : List β) :
    P _ (collect f as acc) := by
  induction as generalizing acc with
  | nil => exact serial.pure _
  | cons a as ih => exact serial.bind (h a) fun b => ih _

lemma sift {f : α → Caller Value} (h : ∀ a, P _ (f a)) (as acc : List α) :
    P _ (sift f as acc) := by
  induction as generalizing acc with
  | nil => exact serial.pure _
  | cons a as ih => exact serial.bind (h a) fun v => ih _

lemma combine {f : β → α → Caller β} (h : ∀ b a, P β (f b a)) (acc : β) (as : List α) :
    P β (combine f acc as) := by
  induction as generalizing acc with
  | nil => exact serial.pure _
  | cons a as ih => exact serial.bind (h acc a) fun b => ih b

end Loops

variable {b : ℕ} {scope : Scope}

lemma sequence (last : Value) (forms : List Value) :
    P _ (Call.sequence b scope last forms) :=
  serial.combine (fun _ _ => serial.call _) _ _

lemma each (forms : List Value) : P _ (Call.each b scope forms) :=
  serial.collect (fun _ => serial.call _) _ _

lemma choose {test : Value} {yes no : Caller Value} (hyes : P _ yes) (hno : P _ no) :
    P _ (Call.choose b scope test yes no) := by
  refine serial.bind (serial.call _) fun t => ?_
  split
  · exact hyes
  · exact hno

lemma bindings (bs : List Value) : P _ (Call.bindings b scope bs) := by
  fun_induction Call.bindings b scope bs with
  | case1 scope name form more ih => exact serial.bind (serial.call _) fun v => ih v
  | case2 => exact serial.throw _
  | case3 => exact serial.pure _

/-- Every special form but the one that enters a namespace. -/
lemma special {form : SpecialForm} {operands : List Value}
    (h : form = .enter → ∀ name more, operands ≠ .symbol name :: more) :
    P _ (Call.special b scope form operands) := by
  fun_cases Call.special b scope form operands with
  | case1 => exact serial.pure _
  | case3 => exact serial.choose (serial.call _) (serial.pure _)
  | case4 => exact serial.choose (serial.call _) (serial.call _)
  | case7 => exact serial.choose (serial.sequence _ _) (serial.pure _)
  | case8 => exact serial.sequence _ _
  | case9 => exact serial.lift (stays_define _ _)
  | case10 => exact serial.bind (serial.call _) fun v => serial.lift (stays_define _ v)
  | case12 | case13 => exact serial.lift (stays_defineClosure _ _ _)
  | case15 => exact serial.bind (serial.bindings _) fun scope => serial.sequence _ _
  | case18 | case19 => exact serial.lift (stays_makeClosure _ _ _)
  | case20 name more => exact absurd rfl (h rfl name more)
  | _ => exact serial.throw _

lemma list {head : Value} {operands : List Value}
    (h : specialHead? head = some .enter → ∀ name more, operands ≠ .symbol name :: more) :
    P _ (Call.list b scope head operands) := by
  rw [Call.list]
  split
  · rename_i form special
    exact serial.special fun enter => h (enter ▸ special)
  · exact serial.bind (serial.call _) fun f =>
      serial.bind (serial.each _) fun args => serial.call _

lemma higher (h : HigherOrder) (args : List Value) : P _ (Call.higher b h args) := by
  fun_cases Call.higher b h args with
  | case1 g xs =>
      refine serial.bind (serial.result _) fun items => ?_
      exact serial.bind (serial.collect (fun _ => serial.call _) _ _) fun vs => serial.pure _
  | case2 g xs =>
      refine serial.bind (serial.result _) fun items => ?_
      exact serial.bind (serial.sift (fun _ => serial.call _) _ _) fun vs => serial.pure _
  | case3 g xs =>
      refine serial.bind (serial.result _) fun items => ?_
      cases items with
      | nil => exact serial.call _
      | cons first rest => exact serial.combine (fun _ _ => serial.call _) _ _
  | case4 g init xs =>
      refine serial.bind (serial.result _) fun items => ?_
      exact serial.combine (fun _ _ => serial.call _) _ _
  | case5 g a more => exact serial.bind (serial.result _) fun items => serial.call _
  | case6 => exact serial.result _

/-- The work of every call but of those that enter a namespace or run a closure. -/
theorem body {c : Call} (h : c.enters? = none)
    (other : ∀ b f args, c ≠ .apply b (.closure f) args) : P _ c.body := by
  fun_cases Call.body c with
  | case1 => exact serial.lift (stays_resolve _ _)
  | case2 | case6 => exact serial.pure _
  | case3 | case10 => exact serial.throw _
  | case4 scope b head operands =>
      refine serial.list fun enter name more same => ?_
      subst same
      rw [Call.enters?, if_pos enter] at h
      cases h
  | case5 => exact serial.bind (serial.each _) fun vs => serial.result _
  | case7 b f args => exact absurd rfl (other b f args)
  | case8 => exact serial.bind (serial.lift (stays_run _ _)) fun v => serial.result _
  | case9 => exact serial.bind (serial.higher _ _) fun v => serial.result _

end Caller.Serial

namespace Caller.Closed

variable {P : (α : Type) → Caller α → Prop} (closed : Closed P)
include closed

lemma closure (b : ℕ) (f : Closure) (args : List Value) : P _ (Call.closure b f args) := by
  rw [Call.closure]
  split
  · exact closed.bind (closed.result _) fun vars =>
      closed.inNamespace _ (closed.sequence _ _)
  · exact closed.throw _

/-- **The work of every call** but of those that enter a namespace is in each closed class. -/
theorem body {c : Call} (h : c.enters? = none) : P _ c.body := by
  by_cases closure : ∃ b f args, c = .apply b (.closure f) args
  · obtain ⟨b, f, args, rfl⟩ := closure
    exact closed.closure b f args
  · exact closed.toSerial.body h fun b f args same => closure ⟨b, f, args, same⟩

end Caller.Closed

end HostedRepl.Lisp
