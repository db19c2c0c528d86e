/-
How many calls are active at once.

* `CallTree.Stack`: calls of a tree, each made by the one before it, from the
  root on. These are active together.
* `Call.room`: a number that grows with the budget and with the depth of the
  form or of the arguments; `Makes.room_lt`: a call makes calls with less room,
  unless it is one of the function `apply`, which gives none of it away.
* `stack_bounded`: so there is a bound for the active calls other than those of
  `apply`, and the limits of evaluation and of nesting determine it.
* `stack_unbounded`: there is no bound for all active calls: `apply` can call
  itself as often as the text of a program says, with one argument less each
  time and without a list or a value that nests.
-/
import HostedRepl.Proofs.Lisp.Nesting
import HostedRepl.Proofs.Lisp.ReadPrint

namespace HostedRepl.Lisp

/-- A call of the tree's root, one that it made, one that this made, and so on: calls that are
active together. -/
inductive CallTree.Stack : CallTree → List Call → Prop
  | root (c : Call) (before : Interp) (calls : List CallTree) (after : Ended Value) :
      Stack (.node c before calls after) [c]
  | deeper {c : Call} {before : Interp} {calls : List CallTree} {after : Ended Value}
      {t : CallTree} {cs : List Call} :
      t ∈ calls → Stack t cs → Stack (.node c before calls after) (c :: cs)

/-! ### The bound -/

/-- The nesting of the arguments but the first. -/
def argDepth : List Value → ℕ
  | [] | [_] => 0
  | _ :: v :: vs => (Value.list (v :: vs)).depth

lemma argDepth_le_iff {args : List Value} {n : ℕ} :
    argDepth args ≤ n + 1 ↔ ∀ v ∈ args.tail, v.depth ≤ n := by
  match args with
  | [] | [_] => simp [argDepth]
  | _ :: v :: vs => exact Value.depth_list_le_iff

lemma lt_argDepth {args : List Value} {v : Value} (h : v ∈ args.tail) :
    v.depth < argDepth args := by
  match args with
  | [] | [_] => cases h
  | _ :: w :: vs => exact Value.depth_lt_of_item (v := .list (w :: vs)) rfl h

/-- The items of the last argument nest no deeper than the arguments do, if the first one of these
goes. -/
lemma argDepth_spread (g : Value) (args : List Value) {last : Value} {items : List Value}
    (seq : last.seq? = some items) :
    argDepth (args ++ items) ≤ argDepth (g :: (args ++ [last])) := by
  have outer {v : Value} (h : v ∈ args ++ [last]) : v.depth < argDepth (g :: (args ++ [last])) :=
    lt_argDepth h
  have deepest : last.depth < argDepth (g :: (args ++ [last])) := outer (by simp)
  obtain ⟨n, depth⟩ := Nat.exists_eq_succ_of_ne_zero (Nat.ne_zero_of_lt deepest)
  rw [depth] at outer deepest ⊢
  refine argDepth_le_iff.mpr fun v hv => Nat.le_of_lt_succ ?_
  rcases List.mem_append.mp (List.mem_of_mem_tail hv) with hv | hv
  · exact outer (List.mem_append_left _ hv)
  · exact (Value.depth_lt_of_item seq hv).trans deepest

namespace Call

/-- A call of the function `apply`. -/
def spreads : Call → Bool
  | .apply _ (.builtin (.higher .apply)) _ => true
  | _ => false

/-- What one unit of the budget allows for. -/
def stride : ℕ := 2 * depthLimit + 3

/-- How many calls other than those of `apply` can be active from the call on. -/
def room : Call → ℕ
  | .eval b _ form => form.depth + 1 + b * stride
  | .apply b _ args => argDepth args + 1 + (depthLimit + 1 + b * stride)

lemma room_pos (c : Call) : 0 < c.room := by
  cases c <;> rw [room] <;> omega

@[simp]
lemma room_eval (b : ℕ) (scope : Scope) (form : Value) :
    room (.eval b scope form) = form.depth + 1 + b * stride := rfl

@[simp]
lemma room_apply (b : ℕ) (f : Value) (args : List Value) :
    room (.apply b f args) = argDepth args + 1 + (depthLimit + 1 + b * stride) := rfl

lemma stride_succ (b : ℕ) : (b + 1) * stride = b * stride + (2 * depthLimit + 3) :=
  Nat.succ_mul b stride

/-- **A call makes calls with less room**, except that a call of `apply` may leave all of it. -/
theorem Makes.room_lt {V : Value → Prop} {c c' : Call} (h : c.Makes V c')
    (hc' : c'.All Value.Sound) : c'.room ≤ c.room ∧ (c.spreads = false → c'.room < c.room) := by
  suffices c'.room < c.room ∨ c.spreads = true ∧ c'.room ≤ c.room by
    rcases this with less | ⟨spreads, le⟩
    · exact ⟨less.le, fun _ => less⟩
    · exact ⟨le, fun none => by simp [none] at spreads⟩
  cases h with
  | item mem =>
      left
      have := Value.depth_lt_of_item (v := .vector _) rfl mem
      simp only [room_eval]
      omega
  | part | binding =>
      left
      have := hc'.2.depth_le
      simp only [room_eval, stride_succ]
      omega
  | @head b scope items args f =>
      left
      have := argDepth_le_iff.mpr fun v hv => (hc'.2 v (List.mem_of_mem_tail hv)).depth_le
      simp only [room_eval, room_apply, stride_succ]
      omega
  | body =>
      left
      have := hc'.2.depth_le
      simp only [room_eval, room_apply]
      omega
  | @start b h g args _ nonempty =>
      left
      obtain ⟨v, args, rfl⟩ := List.exists_cons_of_ne_nil nonempty
      have none : argDepth [] = 0 := rfl
      have := @lt_argDepth (g :: v :: args) _ List.mem_cons_self
      simp only [room_apply, none]
      omega
  | @each b h g xs v args items _ mem =>
      left
      have none : argDepth [v] = 0 := rfl
      have := @lt_argDepth (g :: args) _ mem
      simp only [room_apply, none]
      omega
  | @fold b h g xs acc v args items _ mem seq mem' _ =>
      left
      have inner := Value.depth_lt_of_item seq mem'
      have outer := @lt_argDepth (g :: args) _ mem
      have pair : argDepth [acc, v] ≤ v.depth + 1 := argDepth_le_iff.mpr (by simp)
      simp only [room_apply]
      omega
  | @spread b g last args items seq =>
      have := argDepth_spread g args seq
      refine .inr ⟨rfl, ?_⟩
      simp only [room_apply]
      omega

end Call

/-- **Calls that are active together** are no more than the first one has room for, those of `apply`
apart. -/
lemma CallTree.Stack.count_le {t : CallTree} {cs : List Call} (stack : t.Stack cs)
    {Q : Call → Interp → Ended Value → Prop}
    (valid : t.Valid (Call.Fine Value.Sound) Q (Call.Makes Value.Sound)) :
    cs.countP (fun c => !c.spreads) ≤ t.root.room := by
  induction stack with
  | root c =>
      have := c.room_pos
      have := List.countP_le_length (p := fun c : Call => !c.spreads) (l := [c])
      simp only [List.length_singleton, CallTree.root] at *
      omega
  | @deeper c before calls after t cs mem _ ih =>
      cases valid with
      | node fine _ makes below =>
          have inner := ih (below t mem)
          have fine' : t.root.All Value.Sound := (makes t mem).all admissible_sound.composite fine.1
          have less := (makes t mem).room_lt fine'
          rw [List.countP_cons]
          change _ ≤ c.room
          cases spreads : c.spreads with
          | true => simpa using inner.trans less.1
          | false =>
              have := less.2 spreads
              simp only [Bool.not_false, if_true]
              omega

/-- The greatest number of calls, other than those of `apply`, that are active at once. -/
def stackLimit : ℕ := depthLimit + 1 + evalLimit * Call.stride

/-- **The limits of evaluation and of nesting bound the number of active calls**, those of `apply`
apart. -/
theorem stack_bounded {i : Interp} (h : i.Reachable) (code : String) :
    ∃ ts ended, (i.dialogue code).Runs ts ended ∧ i.evalText code = ended.result ∧
      ∀ t ∈ ts, ∀ cs, t.Stack cs → cs.countP (fun c => !c.spreads) ≤ stackLimit := by
  obtain ⟨ts, ended, runs⟩ := i.dialogue_runs code
  have valid := admissible_sound.dialogue_valid h.holds Interp.sound_forms runs
  refine ⟨ts, ended, runs, Interp.evalText_of_runs runs, fun t ht cs stack => ?_⟩
  obtain ⟨⟨form, root, sound⟩, below⟩ := valid.2 t ht
  have count := stack.count_le below
  have shallow := sound.depth_le
  rw [root, Call.room_eval] at count
  rw [stackLimit]
  omega

/-- A function that calls its argument, called by a text after the one that defines it. -/
theorem stack_bounded_twice :
    let i := ((Interp.start defaultNamespace).evalText "(def twice (fn [f x] (f (f x))))").2
    i.Reachable ∧ ∃ ts ended, (i.dialogue "(twice list 1)").Runs ts ended ∧
      i.evalText "(twice list 1)" = ended.result ∧
      ∀ t ∈ ts, ∀ cs, t.Stack cs → cs.countP (fun c => !c.spreads) ≤ stackLimit := by
  intro i
  have reachable : i.Reachable := .evalText _ (.start _)
  exact ⟨reachable, stack_bounded reachable _⟩

/-! ### Calls of `apply` -/

/-- The function `apply` as a value. -/
def applyFunction : Value := .builtin (.higher .apply)

/-- A call of `apply` with itself so many times, a sum of nothing, and an empty last argument for
each. -/
def Call.chain (b n : ℕ) : Call :=
  .apply b applyFunction
    (List.replicate n applyFunction ++ Value.builtin (.primitive .add) ::
      List.replicate (n + 1) Value.nil)

namespace Call

open Caller

/-- The function `apply` drops an empty last argument and calls the first one. -/
lemma body_spread (b : ℕ) (g : Value) (args : List Value) :
    body (.apply b applyFunction (g :: (args ++ [Value.nil]))) =
      (call (.apply b g args) >>= fun v => liftM (Eval.lift v.bounded)) := by
  cases args with
  | nil => rfl
  | cons a more =>
      have last : (a :: (more ++ [Value.nil])).getLast (List.cons_ne_nil _ _) = Value.nil :=
        List.getLast_concat (l := a :: more)
      have others : (a :: more ++ [Value.nil]).dropLast = a :: more := List.dropLast_concat
      rw [List.cons_append] at others
      change (higher b .apply (g :: a :: (more ++ [Value.nil])) >>= fun v =>
        liftM (Eval.lift v.bounded)) = _
      rw [higher, last, others]
      change (call (.apply b g (a :: more ++ [])) >>= fun v => liftM (Eval.lift v.bounded)) = _
      rw [List.append_nil]

/-- A call of the chain makes the next one. -/
lemma body_chain (b n : ℕ) : (chain b (n + 1)).body =
    (call (chain b n) >>= fun v => liftM (Eval.lift v.bounded)) := by
  have args : List.replicate (n + 1) applyFunction ++ Value.builtin (.primitive .add) ::
      List.replicate (n + 2) Value.nil = applyFunction :: ((List.replicate n applyFunction ++
        Value.builtin (.primitive .add) :: List.replicate (n + 1) Value.nil) ++ [Value.nil]) := by
    rw [List.replicate_succ (n := n), List.replicate_succ' (n := n + 1)]
    simp
  rw [chain, args, body_spread]
  rfl

/-- **All calls of a chain are active together.** -/
lemma stack_chain {b n : ℕ} {i : Interp} {ts : List CallTree} {r : Ended Value}
    (runs : ((chain b n).body i).Runs ts r) :
    ∃ cs, (CallTree.node (chain b n) i ts r).Stack cs ∧ cs.length = n + 1 := by
  induction n generalizing ts r with
  | zero => exact ⟨_, .root _ _ _ _, rfl⟩
  | succ n ih =>
      rw [body_chain] at runs
      cases runs with
      | call body rest =>
          obtain ⟨cs, stack, length⟩ := ih body
          exact ⟨_, .deeper (by simp) stack, by simp [length]⟩

/-- Forms that are evaluated without calls and changes of the state. -/
lemma runs_each {b : ℕ} {scope : Scope} {i : Interp} {value : Value → Value}
    {forms acc : List Value} {ts : List CallTree} {r : Ended (List Value)}
    (h : ∀ form ∈ forms, body (.eval b scope form) i = .done (.ok (value form) i))
    (runs : (collect (fun form => call (.eval b scope form)) forms acc i).Runs ts r) :
    r = .ok (acc.reverse ++ forms.map value) i := by
  induction forms generalizing acc ts with
  | nil =>
      cases runs
      simp
  | cons form forms ih =>
      cases runs with
      | call first rest =>
          rw [h form (by simp)] at first
          cases first
          have others := ih (fun form' mem => h form' (List.mem_cons_of_mem form mem)) rest
          simpa using others

end Call

/-- The arguments of a chain of calls as forms. -/
def chainForms (n : ℕ) : List Value :=
  List.replicate n (Value.symbol "apply") ++ Value.symbol "+" :: List.replicate (n + 1) Value.nil

/-- A chain of calls as a form. -/
def chainForm (n : ℕ) : Value := .list (.symbol "apply" :: chainForms n)

/-- What the forms of a chain stand for. -/
def chainValue : Value → Value
  | .symbol "apply" => applyFunction
  | .symbol _ => .builtin (.primitive .add)
  | v => v

lemma map_chainValue (n : ℕ) : (chainForms n).map chainValue =
    List.replicate n applyFunction ++ Value.builtin (.primitive .add) ::
      List.replicate (n + 1) Value.nil := by
  simp [chainForms, chainValue]

lemma chain_forall {P : Value → Prop} (function : P (.symbol "apply")) (sum : P (.symbol "+"))
    (nil : P .nil) (n : ℕ) : ∀ form ∈ .symbol "apply" :: chainForms n, P form := by
  intro form mem
  simp only [chainForms, List.mem_cons, List.mem_append, List.mem_replicate] at mem
  rcases mem with rfl | ⟨-, rfl⟩ | rfl | ⟨-, rfl⟩
  · exact function
  · exact function
  · exact sum
  · exact nil

/-- The form of a chain is read from its printed form. -/
lemma read_chainForm (n : ℕ) : read (chainForm n).print = .ok [chainForm n] := by
  have forms : ∀ form ∈ .symbol "apply" :: chainForms n, form.Over .tokens :=
    chain_forall (.symbol ⟨by decide, rfl⟩) (.symbol ⟨by decide, rfl⟩) .nil n
  have flat : (chainForm n).depth ≤ 1 :=
    Value.depth_list_le_iff.mpr
      (chain_forall (P := fun form => form.depth ≤ 0) le_rfl le_rfl le_rfl n)
  have reads : Reading.Reads (chainForm n) := (Value.Over.list forms).reads fun x hx => by
    obtain ⟨form, mem, hx⟩ := Value.mem_floatsOfItems.mp hx
    have none : ∀ form ∈ .symbol "apply" :: chainForms n, form.floats = [] :=
      chain_forall (P := fun form => form.floats = []) rfl rfl rfl n
    rw [none form mem] at hx
    cases hx
  rw [read_of_reads reads, if_pos (flat.trans (by decide))]

/-- The evaluation of the form of a chain makes all calls of the chain. -/
lemma stack_chainForm {n : ℕ} {ts : List CallTree} {r : Ended Value}
    (runs : (Call.body (.eval evalLimit [] (chainForm n)) (.start defaultNamespace)).Runs ts r) :
    ∃ cs, cs.length = n + 2 ∧
      (CallTree.node (.eval evalLimit [] (chainForm n)) (.start defaultNamespace) ts r).Stack cs := by
  cases runs with
  | call head rest =>
  cases head
  have rest : ((Call.each evalLimit.pred [] (chainForms n) >>= fun args =>
      Caller.call (.apply evalLimit.pred applyFunction args)) (.start defaultNamespace)).Runs _ _ :=
    rest
  obtain ⟨ts₁, args, ts₂, operands, application, rfl⟩ := rest.of_bind
  have forms := chain_forall (P := fun form => Call.body (.eval evalLimit.pred [] form)
    (.start defaultNamespace) = .done (.ok (chainValue form) (.start defaultNamespace)))
    rfl rfl rfl n
  obtain rfl := Call.runs_each (fun form mem => forms form (List.mem_cons_of_mem _ mem)) operands
  rw [map_chainValue] at application
  cases application with
  | call chain _ =>
      obtain ⟨cs, stack, length⟩ := Call.stack_chain chain
      refine ⟨_, by rw [List.length_cons, length], .deeper ?_ stack⟩
      exact List.mem_cons_of_mem _ (List.mem_append_right ts₁ List.mem_cons_self)

/-- **Nothing bounds the number of all active calls**: there are texts for which it is greater than
any given number, in the first state already. -/
theorem stack_unbounded :
    ¬∃ bound : ℕ, ∀ i : Interp, i.Reachable → ∀ (code : String) (ts : List CallTree)
      (ended : Ended Value), (i.dialogue code).Runs ts ended →
      ∀ t ∈ ts, ∀ cs, t.Stack cs → cs.length ≤ bound := by
  rintro ⟨bound, bounded⟩
  have bounded := bounded (.start defaultNamespace) (.start _) (chainForm bound).print
  obtain ⟨ts, ended, runs⟩ := (Interp.start defaultNamespace).dialogue_runs (chainForm bound).print
  have bounded := bounded ts ended runs
  rw [Interp.dialogue, read_chainForm] at runs
  cases runs with
  | call form _ =>
      obtain ⟨cs, length, stack⟩ := stack_chainForm form
      have := bounded _ List.mem_cons_self cs stack
      omega

end HostedRepl.Lisp
