/-
What the primitives compute.

* `Value.bounded`: a value, unless it nests too deep.
* `rangeCount`, `rangeItems`: the numbers of a range, and how many there are.
* `Primitive.compute`: the result of a primitive that prints nothing.
* `Primitive.printed?`: the text of one that prints.
-/
import HostedRepl.Lisp.Number
import HostedRepl.Lisp.Printer

namespace HostedRepl.Lisp

/-- The value, unless it nests too deep. -/
def Value.bounded (v : Value) : Except EvalError Value :=
  if depthLimit < v.depth then .error (.limit .valueDepth) else .ok v

/-- An argument as a sequence. -/
def seqArg (b : Builtin) (v : Value) : Except EvalError (List Value) :=
  match v.seq? with
  | some items => .ok items
  | none => .error (.mistyped b .sequence v.kind)

/-- An argument as an integer. -/
def intArg (p : Primitive) : Value → Except EvalError Int
  | .int n => .ok n.toInt
  | v => .error (.mistyped (.primitive p) .integer v.kind)

/-- The wrong number of arguments for a built-in function. -/
def wrongArity {α : Type} (b : Builtin) (args : List Value) : Except EvalError α :=
  .error (.arity b.name args.length)

/-- The distance of two integers, cut off at the ends of the 64-bit numbers. -/
def span (low high : Int) : Int := max (-Int.pow 2 63) (min (high - low) (Int.pow 2 63 - 1))

/-- The distance that a range covers in the direction of its steps. -/
def rangeWidth (start stop step : Int) : Int :=
  if 0 < step then span start stop else span stop start

/-- The number of elements of a range. -/
def rangeCount (start stop step : Int) : Int :=
  let width := rangeWidth start stop step
  if width ≤ 0 then 0 else (width - 1) / step.natAbs + 1

/-- The numbers from `start` on in steps of `step` that do not reach `stop`. -/
def rangeItems (start stop step : Int) : Except EvalError (List Value) :=
  if step = 0 then .error (.limit .zeroStep)
  else
    let count := rangeCount start stop step
    if rangeLimit < count then .error (.limit (.rangeLength count))
    else
      .ok ((List.range count.toNat).map fun i : Nat => .int (Int64.ofInt (start + i * step)))

/-- The numbers of a range with one to three bounds. -/
def range (args : List Value) : Except EvalError Value :=
  if args.isEmpty ∨ 3 < args.length then wrongArity (.primitive .range) args
  else do
    match ← args.mapM (intArg .range) with
    | [start, stop, step] => .list <$> rangeItems start stop step
    | [start, stop] => .list <$> rangeItems start stop 1
    | bounds => .list <$> rangeItems 0 (bounds.headD 0) 1

/-- The texts of values, with a space between them. -/
def joined (render : Value → String) : List Value → String
  | [] => ""
  | v :: vs => vs.foldl (fun out v => out ++ " " ++ render v) (render v)

/-- A list grows at the front, a vector at the back. -/
def conjoin : List Value → Except EvalError Value
  | [] => wrongArity (.primitive .conj) []
  | .vector items :: vs => .ok (.vector (items ++ vs))
  | v :: vs => do
    let items ← seqArg (.primitive .conj) v
    return .list (vs.reverse ++ items)

/-- The number of characters of a string, or of items of a sequence. -/
def countItems : Value → Except EvalError Nat
  | .str s => .ok s.length
  | v => List.length <$> seqArg (.primitive .count) v

namespace Primitive

/-- The result of a primitive that prints nothing; the printing ones give `nil`. -/
def compute (p : Primitive) (args : List Value) : Except EvalError Value :=
  match p, args with
  | add, args => sum args
  | sub, args => difference args
  | mul, args => product args
  | div, args => ratio args
  | mod, [a, b] => do
    let m ← Num.ofValue mod a
    let n ← Num.ofValue mod b
    (Num.modulus m n).map Num.toValue
  | inc, [v] => do
    let n ← Num.ofValue inc v
    (Num.combine (· + ·) (· + ·) n (.int 1)).map Num.toValue
  | dec, [v] => do
    let n ← Num.ofValue dec v
    (Num.combine (· - ·) (· - ·) n (.int 1)).map Num.toValue
  | eq, v :: vs => .ok (.bool (neighbours Value.equal (v :: vs)))
  | notEq, v :: vs => .ok (.bool (!neighbours Value.equal (v :: vs)))
  | notEq, [] => wrongArity (.primitive eq) []
  | lt, args => compareChain lt (· < ·) (· < ·) args
  | gt, args => compareChain gt (· > ·) (· > ·) args
  | le, args => compareChain le (· ≤ ·) (· ≤ ·) args
  | ge, args => compareChain ge (· ≥ ·) (· ≥ ·) args
  | not, [v] => .ok (.bool (!v.isTruthy))
  | isNil, [v] => .ok (.bool (match v with | .nil => true | _ => false))
  | str, args =>
    .ok (.str (args.foldl (fun out v => match v with | .nil => out | v => v.write false out) ""))
  | prStr, args => .ok (.str (joined Value.print args))
  | print, _ | println, _ | prn, _ => .ok .nil
  | list, args => .ok (.list args)
  | vector, args => .ok (.vector args)
  | count, [v] => do
    match Decimal.int64? (← countItems v) with
    | some n => return .int n
    | none => throw .overflow
  | first, [v] => do
    let items ← seqArg (.primitive first) v
    return items.headD .nil
  | rest, [v] => do
    let items ← seqArg (.primitive rest) v
    return .list items.tail
  | cons, [v, w] => do
    let items ← seqArg (.primitive cons) w
    return .list (v :: items)
  | conj, args => conjoin args
  | range, args => Lisp.range args
  | identity, [v] => .ok v
  | p, args => wrongArity (.primitive p) args

/-- The text a primitive prints. -/
def printed (p : Primitive) (args : List Value) : String :=
  match p with
  | print => joined Value.display args
  | println => joined Value.display args ++ "\n"
  | prn => joined Value.print args ++ "\n"
  | _ => ""

end Primitive

end HostedRepl.Lisp
