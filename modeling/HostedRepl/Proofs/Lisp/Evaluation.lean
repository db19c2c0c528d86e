/-
What each call does.

* `Call.body`: the work of one call, with the calls that it makes left open. It
  says nothing about why these calls end: no measure and no bound but the
  budget of nested lists.
* `Call.outcome`: what the evaluator gives for a call.
* `Call.outcome_eq`: the outcome of a call is that of its work, given the
  outcomes of the calls it makes. So the evaluator does what `Call.body` says.
-/
import HostedRepl.Lisp.Eval
import HostedRepl.Proofs.Lisp.Dialogue

namespace HostedRepl.Lisp

namespace Call

open Caller

/-! ### Evaluating -/

/-- Evaluate forms in a row; the value of the last one counts, and `last` if there is none. -/
def sequence (b : Nat) (scope : Scope) (last : Value) (forms : List Value) : Caller Value :=
  combine (fun _ form => call (.eval b scope form)) last forms

/-- Evaluate each of some forms. -/
def each (b : Nat) (scope : Scope) (forms : List Value) : Caller (List Value) :=
  collect (fun form => call (.eval b scope form)) forms []

/-- The bindings of a `let`. -/
def bindings (b : Nat) : Scope → List Value → Caller Scope
  | scope, .symbol name :: form :: more => do
    let v ← call (.eval b scope form)
    bindings b ((name, v) :: scope) more
  | _, _ :: _ => liftM (malformed .letName : Eval Scope)
  | scope, [] => return scope

/-- One of two forms or of a form and `nil`, by the value of a test. -/
def choose (b : Nat) (scope : Scope) (test : Value) (yes no : Caller Value) : Caller Value := do
  let t ← call (.eval b scope test)
  if t.isTruthy then yes else no

/-- Make a closure and define a variable of its name. -/
def defineClosure (name : String) (scope : Scope) (operands : List Value) : Eval Value := do
  let f ← makeClosure (some name) scope operands
  define name f

/-- Enter a namespace. -/
def enter (name : String) : Eval Value := do
  modify fun i => i.enter name
  return .nil

/-- A special form with its operands. -/
def special (b : Nat) (scope : Scope) : SpecialForm → List Value → Caller Value
  | .quote, [form] => return form
  | .quote, _ => liftM (malformed .quoteArity : Eval Value)
  | .conditional, [test, yes] => choose b scope test (call (.eval b scope yes)) (return .nil)
  | .conditional, [test, yes, no] =>
    choose b scope test (call (.eval b scope yes)) (call (.eval b scope no))
  | .conditional, _ => liftM (malformed .ifShape : Eval Value)
  | .when, [] => liftM (malformed .whenWithoutTest : Eval Value)
  | .when, test :: body => choose b scope test (sequence b scope .nil body) (return .nil)
  | .sequence, body => sequence b scope .nil body
  | .define, [.symbol name] => liftM (define name .nil)
  | .define, [.symbol name, form] => do
    let v ← call (.eval b scope form)
    liftM (define name v)
  | .define, _ => liftM (malformed .defShape : Eval Value)
  | .defineFn, .symbol name :: .str _ :: operands => liftM (defineClosure name scope operands)
  | .defineFn, .symbol name :: operands => liftM (defineClosure name scope operands)
  | .defineFn, _ => liftM (malformed .defnWithoutName : Eval Value)
  | .bind, .vector bs :: body =>
    if bs.length % 2 = 0 then do
      let scope ← bindings b scope bs
      sequence b scope .nil body
    else liftM (malformed .letBindings : Eval Value)
  | .bind, _ => liftM (malformed .letBindings : Eval Value)
  | .function, .symbol name :: operands => liftM (makeClosure (some name) scope operands)
  | .function, operands => liftM (makeClosure none scope operands)
  | .enter, .symbol name :: _ => liftM (enter name)
  | .enter, _ => liftM (malformed .nsWithoutName : Eval Value)

/-- A nonempty list: a special form, or a call of the value of its head. -/
def list (b : Nat) (scope : Scope) (head : Value) (operands : List Value) : Caller Value :=
  match specialHead? head with
  | some form => special b scope form operands
  | none => do
    let f ← call (.eval b scope head)
    let args ← each b scope operands
    call (.apply b f args)

/-! ### Calling -/

/-- A call of a closure. -/
def closure (b : Nat) (f : Closure) (args : List Value) : Caller Value :=
  if f.accepts args.length then do
    let vars ← liftM (Eval.lift (f.bind args))
    Caller.inNamespace f.ns (sequence b (vars ++ f.scope) .nil f.body)
  else liftM (throw (.arity (f.name.getD "fn") args.length) : Eval Value)

/-- A call of a built-in function that calls its first argument. -/
def higher (b : Nat) : HigherOrder → List Value → Caller Value
  | .map, [g, xs] => do
    let items ← liftM (Eval.lift (seqArg (.higher .map) xs))
    let vs ← collect (fun v => call (.apply b g [v])) items []
    return .list vs
  | .filter, [g, xs] => do
    let items ← liftM (Eval.lift (seqArg (.higher .filter) xs))
    let vs ← sift (fun v => call (.apply b g [v])) items []
    return .list vs
  | .reduce, [g, xs] => do
    match ← liftM (Eval.lift (seqArg (.higher .reduce) xs)) with
    | [] => call (.apply b g [])
    | first :: rest => combine (fun acc v => call (.apply b g [acc, v])) first rest
  | .reduce, [g, init, xs] => do
    let items ← liftM (Eval.lift (seqArg (.higher .reduce) xs))
    combine (fun acc v => call (.apply b g [acc, v])) init items
  | .apply, g :: a :: more => do
    let items ← liftM (Eval.lift (seqArg (.higher .apply)
      ((a :: more).getLast (List.cons_ne_nil a more))))
    call (.apply b g ((a :: more).dropLast ++ items))
  | h, args => liftM (Eval.lift (wrongArity (.higher h) args))

/-- The work of a call. -/
def body : Call → Caller Value
  | .eval _ scope (.symbol name) => liftM (resolve scope name)
  | .eval _ _ (.list []) => return .list []
  | .eval 0 _ (.list (_ :: _)) => liftM (throw .stackOverflow : Eval Value)
  | .eval (b + 1) scope (.list (head :: operands)) => list b scope head operands
  | .eval b scope (.vector items) => do
    let vs ← each b scope items
    liftM (Eval.lift (Value.vector vs).bounded)
  | .eval _ _ v => return v
  | .apply b (.closure f) args => closure b f args
  | .apply _ (.builtin (.primitive p)) args => do
    let v ← liftM (p.run args)
    liftM (Eval.lift v.bounded)
  | .apply b (.builtin (.higher h)) args => do
    let v ← higher b h args
    liftM (Eval.lift v.bounded)
  | .apply _ v _ => liftM (throw (.notCallable v.print) : Eval Value)

/-- What the evaluator gives for a call. -/
def outcome : Call → Eval Value
  | .eval b scope form => evalAt b scope form
  | .apply b f args => applyTo (evalAt b) f args

/-! ### The evaluator does this work -/

variable (b : Nat) (scope : Scope)

lemma settle_sequence (last : Value) (forms : List Value) :
    settle outcome (sequence b scope last forms) = evalBody (evalAt b) scope last forms := by
  induction forms generalizing last with
  | nil => rfl
  | cons form forms ih =>
      have rest (v : Value) : settle outcome (combine (fun _ form => call (.eval b scope form)) v
          forms) = evalBody (evalAt b) scope v forms := ih v
      simp [sequence, combine, evalBody, outcome, rest]

lemma settle_each (forms acc : List Value) :
    settle outcome (collect (fun form => call (.eval b scope form)) forms acc) =
      evalArgs (evalAt b) scope forms acc := by
  induction forms generalizing acc with
  | nil => rfl
  | cons form forms ih => simp [collect, evalArgs, outcome, ih]

lemma settle_bindings (bs : List Value) :
    settle outcome (bindings b scope bs) = evalBindings (evalAt b) scope bs := by
  fun_induction evalBindings (evalAt b) scope bs with
  | case1 scope name form more ih => simp [bindings, outcome, ih]
  | case2 scope head tail h => rw [bindings]; rfl; exact h
  | case3 scope => rfl

lemma settle_choose (test : Value) (yes no : Caller Value) :
    settle outcome (choose b scope test yes no) =
      evalAt b scope test >>= fun t =>
        if t.isTruthy then settle outcome yes else settle outcome no := by
  rw [choose, settle_bind]
  refine congrArg _ (funext fun t => ?_)
  split <;> rfl

lemma settle_special (form : SpecialForm) (operands : List Value) :
    settle outcome (special b scope form operands) =
      evalSpecial (evalAt b) scope form operands := by
  fun_cases evalSpecial (evalAt b) scope form operands <;>
    simp_all [special, settle_choose, settle_sequence, settle_bindings, outcome, defineClosure,
      enter]

lemma settle_list (head : Value) (operands : List Value) :
    settle outcome (list b scope head operands) =
      evalList (evalAt b) scope head operands := by
  rw [list, evalList]
  cases specialHead? head with
  | some form => exact settle_special b scope form operands
  | none => simp [each, settle_each, outcome]

lemma evalItems_eq (onList : Scope → Value → List Value → Eval Value) (forms acc : List Value) :
    evalItems onList scope forms acc = evalArgs (evalForm onList) scope forms acc := by
  induction forms generalizing acc with
  | nil => rw [evalItems, evalArgs]
  | cons form forms ih => simp [evalItems, evalArgs, ih]

lemma settle_closure (f : Closure) (args : List Value) :
    settle outcome (closure b f args) = f.call (evalAt b) args := by
  rw [closure, Closure.call]
  by_cases accepted : f.accepts args.length
  · simp [accepted, settle_sequence]
  · simp [accepted]
    rfl

lemma settle_mapItems (g : Value) (items acc : List Value) :
    settle outcome (collect (fun v => call (.apply b g [v])) items acc) =
      mapItems (fun v => applyTo (evalAt b) g [v]) items acc := by
  induction items generalizing acc with
  | nil => rfl
  | cons v items ih => simp [collect, mapItems, outcome, ih]

lemma settle_filterItems (g : Value) (items acc : List Value) :
    settle outcome (sift (fun v => call (.apply b g [v])) items acc) =
      filterItems (fun v => applyTo (evalAt b) g [v]) items acc := by
  induction items generalizing acc with
  | nil => rfl
  | cons v items ih => simp [sift, filterItems, outcome, ih]

lemma settle_foldItems (g acc : Value) (items : List Value) :
    settle outcome (combine (fun acc v => call (.apply b g [acc, v])) acc items) =
      foldItems (fun acc v => applyTo (evalAt b) g [acc, v]) acc items := by
  induction items generalizing acc with
  | nil => rfl
  | cons v items ih => simp [combine, foldItems, outcome, ih]

/-- Items that are known to be among some others are combined as they are. -/
lemma foldItems_attach (f : Value → Value → Eval Value) (acc : Value) (items : List Value) :
    foldItems (fun acc (item : { v // v ∈ items }) => f acc item.1) acc items.attach =
      foldItems f acc items := by
  have (p : Value → Prop) (rest : List { v // p v }) (acc : Value) :
      foldItems (fun acc (item : { v // p v }) => f acc item.1) acc rest =
        foldItems f acc (rest.map Subtype.val) := by
    induction rest generalizing acc with
    | nil => rfl
    | cons item rest ih => simp [foldItems, ih]
  rw [this, List.attach_map_subtype_val]

/-- An argument as a sequence, in the two ways in which the calls look at it. -/
lemma lift_seqArg (h : HigherOrder) (xs : Value) :
    Eval.lift (seqArg (.higher h) xs) = match xs.seq? with
      | some items => pure items
      | none => throw (.mistyped (.higher h) .sequence xs.kind) := by
  rw [seqArg]
  cases xs.seq? <;> rfl

lemma settle_higher (h : HigherOrder) (args : List Value) :
    applyTo (evalAt b) (.builtin (.higher h)) args =
      settle outcome (higher b h args) >>= fun v => Eval.lift v.bounded := by
  fun_cases higher b h args with
  | case1 g xs => simp [applyTo, settle_mapItems]
  | case2 g xs => simp [applyTo, settle_filterItems]
  | case3 g xs =>
      rw [applyTo]
      split <;> rename_i found <;> simp only [settle_bind, settle_lift, lift_seqArg, found]
      · simp [outcome]
      · simp [settle_foldItems, foldItems_attach fun acc v => applyTo (evalAt b) g [acc, v]]
      · rfl
  | case4 g init xs =>
      rw [applyTo]
      split <;> rename_i found <;> simp only [settle_bind, settle_lift, lift_seqArg, found]
      · simp [settle_foldItems, foldItems_attach fun acc v => applyTo (evalAt b) g [acc, v]]
      · rfl
  | case5 g a more =>
      rw [applyTo]
      split <;> rename_i found <;> simp only [settle_bind, settle_lift, lift_seqArg, found]
      · simp [outcome]
      · rfl
  | case6 h args notMap notFilter notReduce notReduceFrom notApply =>
      cases h with
      | map => rw [applyTo]; rfl; exact fun g xs => notMap g xs rfl
      | filter => rw [applyTo]; rfl; exact fun g xs => notFilter g xs rfl
      | reduce =>
          rw [applyTo]
          · rfl
          · exact fun g xs => notReduce g xs rfl
          · exact fun g init xs => notReduceFrom g init xs rfl
      | apply => rw [applyTo]; rfl; exact fun g a more => notApply g a more rfl

/-- The items of a vector are evaluated as arguments are. -/
lemma evalAt_vector (items : List Value) :
    evalAt b scope (.vector items) =
      evalArgs (evalAt b) scope items [] >>= fun vs => Eval.lift (Value.vector vs).bounded := by
  cases b <;> rw [evalAt, evalForm, evalItems_eq]

/-- **The evaluator does the work of `Call.body`**: the outcome of a call is that of its work, given
the outcomes of the calls it makes. -/
theorem outcome_eq (c : Call) : outcome c = settle outcome c.body := by
  fun_cases body c with
  | case1 b scope name => cases b <;> rw [outcome, evalAt, evalForm, settle_lift]
  | case2 b scope => cases b <;> rw [outcome, evalAt, evalForm, settle_pure]
  | case3 scope head operands => rw [outcome, evalAt, evalForm, settle_lift]
  | case4 scope b head operands => rw [outcome, evalAt, evalForm, settle_list]
  | case5 b scope items => simp [outcome, evalAt_vector, each, settle_each]
  | case6 b scope v notSymbol notNil notAtZero notList notVector =>
      have other (head : Value) (operands : List Value) : v ≠ .list (head :: operands) := by
        cases b with
        | zero => exact notAtZero head operands rfl
        | succ b => exact notList b head operands rfl
      cases b <;> rw [outcome, evalAt, evalForm] <;> first | rfl | assumption
  | case7 b f args => rw [outcome, applyTo, settle_closure]
  | case8 b p args => simp [outcome, applyTo]
  | case9 b h args => rw [outcome, settle_higher, settle_bind]; rfl
  | case10 b v args notClosure notPrimitive notHigher =>
      rw [outcome, applyTo]
      · rfl
      · exact notClosure
      · exact notPrimitive
      all_goals exact notHigher _

end Call

end HostedRepl.Lisp
