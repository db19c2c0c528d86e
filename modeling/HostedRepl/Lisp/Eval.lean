/-
Evaluation of forms.

A list is a special form or a call, and evaluating one uses up one unit of the nesting budget. The
parts of a list, and the body of a closure it calls, are evaluated with what is left of the budget,
so the budget is what the evaluator recurses on; vectors cost nothing and end because a form is
finite.

* `SpecialForm`: the names that have a meaning of their own in head position.
* `evalSpecial`, `evalList`: a nonempty list, given an evaluator of its parts.
* `evalForm`: a form, given an evaluator of nonempty lists.
* `evalAt`: a form with a budget.
* `evalForms`: top-level forms in a row, each with the full budget `evalLimit`.
-/
import HostedRepl.Lisp.Apply

namespace HostedRepl.Lisp

/-- The names with a meaning of their own in head position. -/
inductive SpecialForm where
  | quote
  | conditional
  | when
  | sequence
  | define
  | defineFn
  | bind
  | function
  | enter
  deriving DecidableEq, Repr

/-- The special form of a name. -/
def SpecialForm.ofName? : String → Option SpecialForm
  | "quote" => some .quote
  | "if" => some .conditional
  | "when" => some .when
  | "do" => some .sequence
  | "def" => some .define
  | "defn" => some .defineFn
  | "let" => some .bind
  | "fn" => some .function
  | "ns" => some .enter
  | _ => none

/-! ### The parts of special forms -/

/-- A malformed special form. -/
def malformed {α : Type} (fault : FormFault) : Eval α := throw (.malformed fault)

/-- The parameters of a parameter vector, and the one after `&` that takes the rest. -/
def parseParams : List Value → Except FormFault (List String × Option String)
  | [] => .ok ([], none)
  | .symbol "&" :: more =>
    match more with
    | [.symbol rest] => .ok ([], some rest)
    | _ => .error .fnRest
  | .symbol p :: more => (parseParams more).map fun (ps, rest) => (p :: ps, rest)
  | _ :: _ => .error .fnParameterName

/-- Make a closure of a parameter vector and a body. It nests one level deeper than the deepest
variable in scope. -/
def makeClosure (name : Option String) (scope : Scope) : List Value → Eval Value
  | .vector params :: body => do
    match parseParams params with
    | .error fault => malformed fault
    | .ok (ps, rest) =>
      let depth := 1 + scope.depth
      if depthLimit < depth then throw (.limit .closureDepth)
      let i ← get
      set { i with closures := i.closures + 1 }
      return .closure
        { id := i.closures, name, params := ps, rest, body, scope, ns := i.current, depth }
  | _ => malformed .fnParameters

/-- Define a variable of the current namespace; the value is the symbol that names it. -/
def define (name : String) (v : Value) : Eval Value := do
  modify fun i => i.define name v
  return .symbol ("#'" ++ (← get).current ++ "/" ++ name)

/-- The bindings of a `let`, each evaluated in the scope of those before it. -/
def evalBindings (ev : Evaluate) : Scope → List Value → Eval Scope
  | scope, .symbol name :: form :: more => do
    let v ← ev scope form
    evalBindings ev ((name, v) :: scope) more
  | _, _ :: _ => malformed .letName
  | scope, [] => return scope

/-- The arguments of a call, collected last one first. -/
def evalArgs (ev : Evaluate) (scope : Scope) : List Value → (acc : List Value) →
    Eval (List Value)
  | [], acc => return acc.reverse
  | form :: forms, acc => do
    let v ← ev scope form
    evalArgs ev scope forms (v :: acc)

/-! ### Lists -/

/-- A special form with its operands. -/
def evalSpecial (ev : Evaluate) (scope : Scope) : SpecialForm → List Value → Eval Value
  | .quote, [form] => return form
  | .quote, _ => malformed .quoteArity
  | .conditional, [test, yes] => do
    let t ← ev scope test
    if t.isTruthy then ev scope yes else return .nil
  | .conditional, [test, yes, no] => do
    let t ← ev scope test
    if t.isTruthy then ev scope yes else ev scope no
  | .conditional, _ => malformed .ifShape
  | .when, [] => malformed .whenWithoutTest
  | .when, test :: body => do
    let t ← ev scope test
    if t.isTruthy then evalBody ev scope .nil body else return .nil
  | .sequence, body => evalBody ev scope .nil body
  | .define, [.symbol name] => define name .nil
  | .define, [.symbol name, form] => do
    let v ← ev scope form
    define name v
  | .define, _ => malformed .defShape
  | .defineFn, .symbol name :: .str _ :: operands => do
    let f ← makeClosure (some name) scope operands
    define name f
  | .defineFn, .symbol name :: operands => do
    let f ← makeClosure (some name) scope operands
    define name f
  | .defineFn, _ => malformed .defnWithoutName
  | .bind, .vector bindings :: body => do
    if bindings.length % 2 = 0 then
      let scope ← evalBindings ev scope bindings
      evalBody ev scope .nil body
    else malformed .letBindings
  | .bind, _ => malformed .letBindings
  | .function, .symbol name :: operands => makeClosure (some name) scope operands
  | .function, operands => makeClosure none scope operands
  | .enter, .symbol name :: _ => do
    modify fun i => i.enter name
    return .nil
  | .enter, _ => malformed .nsWithoutName

/-- The special form that a head stands for. -/
def specialHead? : Value → Option SpecialForm
  | .symbol name => SpecialForm.ofName? name
  | _ => none

/-- A nonempty list: a special form, or a call of the value of its head. -/
def evalList (ev : Evaluate) (scope : Scope) (head : Value) (operands : List Value) :
    Eval Value :=
  match specialHead? head with
  | some form => evalSpecial ev scope form operands
  | none => do
    let f ← ev scope head
    let args ← evalArgs ev scope operands []
    applyTo ev f args

/-! ### Forms -/

/-- The value of a symbol: a variable in scope, or else a global one. -/
def resolve (scope : Scope) (name : String) : Eval Value := do
  match scope.find? name with
  | some v => return v
  | none =>
    match (← get).global? name with
    | some v => return v
    | none => throw (.unbound name)

mutual

/-- A form, given an evaluator of nonempty lists. -/
def evalForm (onList : Scope → Value → List Value → Eval Value) (scope : Scope) :
    Value → Eval Value
  | .symbol name => resolve scope name
  | .list [] => return .list []
  | .list (head :: operands) => onList scope head operands
  | .vector items => do
    let vs ← evalItems onList scope items []
    Eval.lift (Value.vector vs).bounded
  | v => return v

/-- The items of a vector, collected last one first. -/
def evalItems (onList : Scope → Value → List Value → Eval Value) (scope : Scope) :
    List Value → (acc : List Value) → Eval (List Value)
  | [], acc => return acc.reverse
  | form :: forms, acc => do
    let v ← evalForm onList scope form
    evalItems onList scope forms (v :: acc)

end

/-- A form with a budget of nested lists. -/
def evalAt : (budget : Nat) → Scope → Value → Eval Value
  | 0 => evalForm fun _ _ _ => throw .stackOverflow
  | budget + 1 => evalForm (evalList (evalAt budget))

/-- The deepest nesting of lists under evaluation. -/
def evalLimit : Nat := 128

/-- Top-level forms in a row; the value is that of the last one. -/
def evalForms (forms : List Value) : Eval Value := evalBody (evalAt evalLimit) [] .nil forms

end HostedRepl.Lisp
