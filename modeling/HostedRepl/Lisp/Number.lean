/-
Arithmetic of the language.

Integers have 64 bits and never wrap: a result that does not fit is an error. A float among the
arguments makes the result a float. The quotient of integers is an integer when the division is
exact and fits, and a float otherwise.

* `Num`: a number of either type.
* `Num.combine`, `Num.quotient`, `Num.modulus`: one operation on two numbers.
* `sum`, `product`, `difference`, `ratio`: the operations on any number of arguments.
* `compareChain`: every pair of neighbours is in order.
-/
import HostedRepl.Lisp.Error
import HostedRepl.Decimal.Double
import HostedRepl.Decimal.Reading

namespace HostedRepl.Lisp

/-- A number of either type. -/
inductive Num where
  | int (n : Int64)
  | float (x : Float)

namespace Num

/-- The number as a float. -/
def toFloat : Num → Float
  | int n => Float.ofInt n.toInt
  | float x => x

/-- The number as a value. -/
def toValue : Num → Value
  | int n => .int n
  | float x => .float x

/-- An argument as a number. -/
def ofValue (p : Primitive) : Value → Except EvalError Num
  | .int n => .ok (.int n)
  | .float x => .ok (.float x)
  | v => .error (.mistyped (.primitive p) .number v.kind)

/-- The exact result of an integer operation, if it fits. -/
def ofInt (n : Int) : Except EvalError Num :=
  match Decimal.int64? n with
  | some n => .ok (.int n)
  | none => .error .overflow

/-- Combine two integers exactly, or two numbers as floats. -/
def combine (exact : Int → Int → Int) (rounded : Float → Float → Float) :
    Num → Num → Except EvalError Num
  | int a, int b => ofInt (exact a.toInt b.toInt)
  | a, b => .ok (.float (rounded a.toFloat b.toFloat))

/-- Divide. An integer zero divides nothing. -/
def quotient : Num → Num → Except EvalError Num
  | a, int b =>
    if b = 0 then .error .divideByZero
    else
      match a with
      | int a =>
        match if a.toInt % b.toInt = 0 then Decimal.int64? (a.toInt / b.toInt) else none with
        | some n => .ok (.int n)
        | none => .ok (.float (toFloat (int a) / toFloat (int b)))
      | float x => .ok (.float (x / toFloat (int b)))
  | a, float y => .ok (.float (a.toFloat / y))

/-- The remainder that is never negative. Of integers it is refused when the quotient does not
fit. -/
def modulus : Num → Num → Except EvalError Num
  | a, int b =>
    if b = 0 then .error .divideByZero
    else
      match a with
      | int a =>
        match Decimal.int64? (a.toInt / b.toInt) with
        | some _ => ofInt (a.toInt % b.toInt)
        | none => .error .overflow
      | float x => .ok (.float (Decimal.euclideanRemainder x (toFloat (int b))))
  | a, float y => .ok (.float (Decimal.euclideanRemainder a.toFloat y))

/-- Combine arguments from the left, starting with `acc`. -/
def fold (p : Primitive) (op : Num → Num → Except EvalError Num) :
    (acc : Num) → List Value → Except EvalError Num
  | acc, [] => .ok acc
  | acc, v :: vs => do
    let n ← ofValue p v
    let acc ← op acc n
    fold p op acc vs

end Num

/-- The sum of the arguments. -/
def sum (args : List Value) : Except EvalError Value :=
  (Num.fold .add (Num.combine (· + ·) (· + ·)) (.int 0) args).map Num.toValue

/-- The product of the arguments. -/
def product (args : List Value) : Except EvalError Value :=
  (Num.fold .mul (Num.combine (· * ·) (· * ·)) (.int 1) args).map Num.toValue

/-- The first argument less the others; a single one is taken from zero. -/
def difference : List Value → Except EvalError Value
  | [] => .error (.arity Primitive.sub.name 0)
  | [v] => (Num.fold .sub (Num.combine (· - ·) (· - ·)) (.int 0) [v]).map Num.toValue
  | v :: vs => do
    let first ← Num.ofValue .sub v
    (Num.fold .sub (Num.combine (· - ·) (· - ·)) first vs).map Num.toValue

/-- The first argument divided by the others in turn; a single one divides one. -/
def ratio : List Value → Except EvalError Value
  | [] => .error (.arity Primitive.div.name 0)
  | [v] => (Num.fold .div Num.quotient (.int 1) [v]).map Num.toValue
  | v :: vs => do
    let first ← Num.ofValue .div v
    (Num.fold .div Num.quotient first vs).map Num.toValue

/-- The order of two numbers: integers among themselves compare exactly. -/
def Num.ordered (exact : Int → Int → Bool) (rounded : Float → Float → Bool) : Num → Num → Bool
  | .int a, .int b => exact a.toInt b.toInt
  | a, b => rounded a.toFloat b.toFloat

/-- Every two neighbours are related. -/
def neighbours {α : Type} (related : α → α → Bool) : List α → Bool
  | a :: b :: rest => if related a b then neighbours related (b :: rest) else false
  | _ => true

/-- All arguments as numbers. -/
def numbers (p : Primitive) (args : List Value) : Except EvalError (List Num) :=
  args.mapM (Num.ofValue p)

/-- Every two neighbouring arguments are in order. -/
def compareChain (p : Primitive) (exact : Int → Int → Bool) (rounded : Float → Float → Bool)
    (args : List Value) : Except EvalError Value :=
  if args.isEmpty then .error (.arity p.name 0)
  else do
    let nums ← numbers p args
    return .bool (neighbours (Num.ordered exact rounded) nums)

end HostedRepl.Lisp
