/-
Errors of reading and evaluation.

* `ReadError`: why a text is no sequence of forms.
* `EvalError`: why an evaluation failed, with `FormFault` for malformed special forms and `Limit`
  for refused sizes.
* `message`: the wording of each. `EvalError.category`: the short name clients are told.
-/
import HostedRepl.Lisp.Value
import HostedRepl.Files

namespace HostedRepl.Lisp

/-- Why a text is no sequence of forms. -/
inductive ReadError where
  /-- The text ended before this closing bracket. -/
  | unbalanced (close : Char)
  /-- A closing bracket that matches no open one. -/
  | unexpectedClose (c : Char)
  | unterminatedString
  | invalidEscape (c : Char)
  /-- An atom that begins like a number and is none. -/
  | invalidNumber (atom : String)
  | danglingQuote
  | tooDeep
  deriving DecidableEq, Repr

/-- The wording of a read error. -/
def ReadError.message : ReadError → String
  | .unbalanced c => "EOF while reading, expected `" ++ c.toString ++ "`"
  | .unexpectedClose c => "unmatched delimiter `" ++ c.toString ++ "`"
  | .unterminatedString => "EOF while reading string"
  | .invalidEscape c => "unsupported escape character `\\" ++ c.toString ++ "`"
  | .invalidNumber atom => "invalid number `" ++ atom ++ "`"
  | .danglingQuote => "EOF after quote"
  | .tooDeep => "forms nested deeper than " ++ toString depthLimit ++ " levels"

/-- How a special form can be malformed. -/
inductive FormFault where
  | quoteArity
  | whenWithoutTest
  | ifShape
  | defShape
  | defnWithoutName
  | letBindings
  | letName
  | fnParameters
  | fnRest
  | fnParameterName
  | nsWithoutName
  deriving DecidableEq, Repr

/-- The special form that is malformed. -/
def FormFault.form : FormFault → String
  | .quoteArity => "quote"
  | .whenWithoutTest => "when"
  | .ifShape => "if"
  | .defShape => "def"
  | .defnWithoutName => "defn"
  | .letBindings | .letName => "let"
  | .fnParameters | .fnRest | .fnParameterName => "fn"
  | .nsWithoutName => "ns"

/-- What is wrong with the form. -/
def FormFault.reason : FormFault → String
  | .quoteArity => "expected 1 argument(s)"
  | .whenWithoutTest => "missing test"
  | .ifShape => "expected (if test then else?)"
  | .defShape => "expected (def name value?)"
  | .defnWithoutName => "expected a name"
  | .letBindings => "expected a vector with an even number of forms"
  | .letName => "binding names must be symbols"
  | .fnParameters => "expected a parameter vector"
  | .fnRest => "expected one name after &"
  | .fnParameterName => "parameters must be symbols"
  | .nsWithoutName => "expected a namespace name"

/-- The greatest number of elements in a range. -/
def rangeLimit : Nat := 1000000

/-- The sizes an evaluation refuses. -/
inductive Limit where
  | valueDepth
  | closureDepth
  | zeroStep
  /-- A range with this many elements. -/
  | rangeLength (n : Int)
  deriving DecidableEq, Repr

/-- The wording of a refused size. -/
def Limit.message : Limit → String
  | .valueDepth => "value nested deeper than " ++ toString depthLimit ++ " levels"
  | .closureDepth => "closure nested deeper than " ++ toString depthLimit ++ " levels"
  | .zeroStep => "range step must not be zero"
  | .rangeLength n =>
    "range of " ++ toString n ++ " elements exceeds " ++ toString rangeLimit

/-- What an argument of a built-in function has to be. -/
inductive Expected where
  | number
  | integer
  | sequence
  deriving DecidableEq, Repr

/-- The name of what is expected. -/
def Expected.name : Expected → String
  | .number => "number"
  | .integer => "integer"
  | .sequence => "sequence"

/-- Why an evaluation failed. -/
inductive EvalError where
  | read (e : ReadError)
  | unbound (name : String)
  /-- The value in head position, as it prints, is no function. -/
  | notCallable (shown : String)
  | arity (name : String) (got : Nat)
  | mistyped (op : Builtin) (expected : Expected) (got : Kind)
  | divideByZero
  | overflow
  | malformed (fault : FormFault)
  | stackOverflow
  | limit (l : Limit)
  | unreadable (path : String) (fault : FileFault)
  deriving DecidableEq, Repr

namespace EvalError

/-- The wording of an evaluation error. -/
def message : EvalError → String
  | read e => e.message
  | unbound name => "unable to resolve symbol: " ++ name
  | notCallable shown => shown ++ " cannot be called"
  | arity name got => "wrong number of args (" ++ toString got ++ ") passed to " ++ name
  | mistyped op expected got =>
    op.name ++ ": expected " ++ expected.name ++ ", got " ++ got.name
  | divideByZero => "divide by zero"
  | overflow => "integer overflow"
  | malformed fault => "malformed " ++ fault.form ++ ": " ++ fault.reason
  | stackOverflow => "stack depth exceeded"
  | limit l => l.message
  | unreadable path fault => "could not read " ++ path ++ ": " ++ fault.message

/-- The short name of the kind of error. -/
def category : EvalError → String
  | read _ => "ReaderException"
  | unbound _ => "UnresolvedSymbol"
  | notCallable _ | mistyped .. => "TypeError"
  | arity .. => "ArityException"
  | divideByZero | overflow => "ArithmeticException"
  | malformed _ => "CompilerException"
  | stackOverflow | limit _ => "RuntimeException"
  | unreadable .. => "IOException"

end EvalError

end HostedRepl.Lisp
