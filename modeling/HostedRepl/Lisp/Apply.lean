/-
Calls of functions.

The evaluator of forms is a parameter `ev` here. What is left is the work of the call itself: to
bind the parameters of a closure and run its body, and to run a built-in function. A higher-order
function may call another one, or itself; its calls end because each passes arguments of which all
but the first are together smaller than those it got.

* `evalBody`: forms in a row.
* `Closure.bind`: the variables of a call.
* `Closure.call`: a call of a closure, in the closure's namespace.
* `applyTo`: a call of any value.
-/
import HostedRepl.Lisp.Interp
import HostedRepl.Lisp.Primitive

namespace HostedRepl.Lisp

/-- An evaluator of forms. -/
abbrev Evaluate := Scope → Value → Eval Value

/-- Evaluate forms in a row; the value of the last one counts, and `last` if there is none. -/
def evalBody (ev : Evaluate) (scope : Scope) (last : Value) : List Value → Eval Value
  | [] => return last
  | form :: forms => do
    let v ← ev scope form
    evalBody ev scope v forms

/-! ### Closures -/

/-- The number of arguments is one the closure takes. -/
def Closure.accepts (f : Closure) (n : Nat) : Bool :=
  if f.rest.isSome then f.params.length ≤ n else n == f.params.length

/-- The parameters with their arguments; of two parameters with one name the later one counts. -/
def bindParams (vars : Table Value) : List String → List Value → Table Value
  | p :: ps, v :: vs => bindParams (vars.set p v) ps vs
  | _, _ => vars

/-- The variables of a call: the parameters, the remaining arguments, and the closure's own name
unless it is taken. -/
def Closure.bind (f : Closure) (args : List Value) : Except EvalError (Table Value) := do
  let vars := bindParams [] f.params args
  let vars ← match f.rest with
    | none => pure vars
    | some rest =>
      match args.drop f.params.length with
      | [] => pure (vars.set rest .nil)
      | extra => do pure (vars.set rest (← (Value.list extra).bounded))
  match f.name with
  | none => return vars
  | some name =>
    match vars.find? name with
    | some _ => return vars
    | none => return vars.set name (.closure f)

/-- Back to the namespace of the caller, unless the body has left that of the closure. -/
def Interp.leave (i : Interp) (own caller : String) : Interp :=
  if i.current = own then { i with current := caller } else i

/-- Run a computation in the namespace of a closure. -/
def inNamespace {α : Type} (own : String) (x : Eval α) : Eval α := fun i =>
  match x { i with current := own } with
  | .ok a i' => .ok a (i'.leave own i.current)
  | .error e i' => .error e (i'.leave own i.current)

/-- Call a closure. -/
def Closure.call (ev : Evaluate) (f : Closure) (args : List Value) : Eval Value := do
  if !f.accepts args.length then throw (.arity (f.name.getD "fn") args.length)
  let vars ← Eval.lift (f.bind args)
  inNamespace f.ns (evalBody ev (vars ++ f.scope) .nil f.body)

/-! ### Built-in functions -/

/-- Run a primitive. -/
def Primitive.run (p : Primitive) (args : List Value) : Eval Value := do
  let v ← Eval.lift (p.compute args)
  modify fun i => i.print (p.printed args)
  return v

/-- The values of a function at each item, collected last one first. -/
def mapItems (f : Value → Eval Value) : List Value → (acc : List Value) → Eval (List Value)
  | [], acc => return acc.reverse
  | v :: vs, acc => do
    let w ← f v
    mapItems f vs (w :: acc)

/-- The items a function is true of, collected last one first. -/
def filterItems (f : Value → Eval Value) : List Value → (acc : List Value) → Eval (List Value)
  | [], acc => return acc.reverse
  | v :: vs, acc => do
    let w ← f v
    filterItems f vs (if w.isTruthy then v :: acc else acc)

/-- Combine the items from the left. -/
def foldItems {α : Type} (f : Value → α → Eval Value) : (acc : Value) → List α → Eval Value
  | acc, [] => return acc
  | acc, a :: rest => do
    let acc ← f acc a
    foldItems f acc rest

/-! ### The measure of a call -/

theorem Value.sizeOfItems_append (vs ws : List Value) :
    sizeOfItems (vs ++ ws) = sizeOfItems vs + sizeOfItems ws := by
  induction vs with
  | nil => simp [sizeOfItems]
  | cons v vs ih => simp only [List.cons_append, sizeOfItems, ih]; omega

theorem Value.sizeOfItems_tail_le (vs : List Value) : sizeOfItems vs.tail ≤ sizeOfItems vs := by
  cases vs with
  | nil => simp
  | cons v vs => simp only [List.tail_cons, sizeOfItems]; omega

theorem Value.size_pos (v : Value) : 0 < v.size := by
  cases v <;> simp only [size] <;> omega

theorem Value.size_le_of_mem {v : Value} {vs : List Value} (h : v ∈ vs) :
    v.size ≤ sizeOfItems vs := by
  induction vs with
  | nil => simp at h
  | cons w ws ih =>
    simp only [sizeOfItems]
    rcases List.mem_cons.1 h with rfl | h
    · omega
    · have := ih h; omega

theorem Value.sizeOfItems_lt_size {v : Value} {items : List Value} (h : v.seq? = some items) :
    sizeOfItems items < v.size := by
  unfold Value.seq? at h
  split at h <;> first
    | (cases h; simp [size, sizeOfItems])
    | cases h

theorem Value.sizeOfItems_dropLast (v : Value) (vs : List Value) :
    sizeOfItems (v :: vs) =
      sizeOfItems (v :: vs).dropLast + ((v :: vs).getLast (List.cons_ne_nil v vs)).size := by
  have split := List.dropLast_concat_getLast (List.cons_ne_nil v vs)
  have := congrArg sizeOfItems split
  rw [sizeOfItems_append] at this
  simp only [sizeOfItems] at this ⊢
  omega

/-! ### Calls -/

/-- Call a value. A built-in function may not give a value that nests too deep. -/
def applyTo (ev : Evaluate) (f : Value) (args : List Value) : Eval Value :=
  match f with
  | .closure f => f.call ev args
  | .builtin (.primitive p) => do
    let v ← p.run args
    Eval.lift v.bounded
  | .builtin (.higher .map) =>
    match args with
    | [g, xs] => do
      let items ← Eval.lift (seqArg (.higher .map) xs)
      let vs ← mapItems (fun v => applyTo ev g [v]) items []
      Eval.lift (Value.list vs).bounded
    | args => Eval.lift (wrongArity (.higher .map) args)
  | .builtin (.higher .filter) =>
    match args with
    | [g, xs] => do
      let items ← Eval.lift (seqArg (.higher .filter) xs)
      let vs ← filterItems (fun v => applyTo ev g [v]) items []
      Eval.lift (Value.list vs).bounded
    | args => Eval.lift (wrongArity (.higher .filter) args)
  | .builtin (.higher .reduce) =>
    match args with
    | [g, xs] =>
      match _h : xs.seq? with
      | some [] => do
        let v ← applyTo ev g []
        Eval.lift v.bounded
      | some (first :: rest) => do
        let v ← foldItems (fun acc (item : { v // v ∈ rest }) => applyTo ev g [acc, item.1]) first
          rest.attach
        Eval.lift v.bounded
      | none => throw (.mistyped (.higher .reduce) .sequence xs.kind)
    | [g, init, xs] =>
      match _h : xs.seq? with
      | some items => do
        let v ← foldItems (fun acc (item : { v // v ∈ items }) => applyTo ev g [acc, item.1]) init
          items.attach
        Eval.lift v.bounded
      | none => throw (.mistyped (.higher .reduce) .sequence xs.kind)
    | args => Eval.lift (wrongArity (.higher .reduce) args)
  | .builtin (.higher .apply) =>
    match args with
    | g :: a :: more =>
      match _h : ((a :: more).getLast (List.cons_ne_nil a more)).seq? with
      | some items => do
        let v ← applyTo ev g ((a :: more).dropLast ++ items)
        Eval.lift v.bounded
      | none =>
        throw (.mistyped (.higher .apply) .sequence
          ((a :: more).getLast (List.cons_ne_nil a more)).kind)
    | args => Eval.lift (wrongArity (.higher .apply) args)
  | v => throw (.notCallable v.print)
termination_by Value.sizeOfItems args.tail
decreasing_by
  all_goals simp only [List.tail_cons, List.tail_nil, Value.sizeOfItems]
  · have := Value.size_pos xs; omega
  · have := Value.size_pos xs; omega
  · have := Value.size_pos xs; omega
  · have := Value.sizeOfItems_lt_size _h
    have := Value.size_le_of_mem item.2
    simp only [Value.sizeOfItems] at *
    omega
  · have := Value.sizeOfItems_lt_size _h
    have := Value.size_le_of_mem item.2
    have := Value.size_pos init
    omega
  · have := Value.sizeOfItems_lt_size _h
    have := Value.sizeOfItems_dropLast a more
    have := Value.sizeOfItems_tail_le ((a :: more).dropLast ++ items)
    simp only [Value.sizeOfItems_append, Value.sizeOfItems] at *
    omega

end HostedRepl.Lisp
