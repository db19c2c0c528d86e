/-
Values of the language, which are also its programs.

* `Value`, `Closure`: atoms, lists, vectors, functions of the program and built-in functions. A
  closure carries the variables of the scopes around it, innermost first.
* `Value.kind`: the name of a value's type.
* `Value.depth`: nesting of lists and vectors; a closure has the depth it was made with.
* `Value.equal`: the equality of the language. Lists and vectors are equal item by item, closures
  when they are one and the same.
* `Value.seq?`: a list, a vector or `nil` as a sequence.
-/
import HostedRepl.Lisp.Builtin

namespace HostedRepl.Lisp

mutual

/-- A value, or a form to be evaluated. -/
inductive Value where
  | nil
  | bool (b : Bool)
  | int (n : Int64)
  | float (x : Float)
  | str (s : String)
  | keyword (name : String)
  | symbol (name : String)
  | list (items : List Value)
  | vector (items : List Value)
  | closure (f : Closure)
  | builtin (b : Builtin)

/-- A function of the program. -/
structure Closure where
  /-- Told apart from every other closure by this number. -/
  id : Nat
  name : Option String
  params : List String
  /-- The parameter that takes the remaining arguments. -/
  rest : Option String
  body : List Value
  /-- The variables of the scopes around it, innermost first. -/
  scope : List (String × Value)
  /-- The namespace its body resolves globals in. -/
  ns : String
  /-- One more than the greatest depth in `scope`. -/
  depth : Nat

end

/-- The variables in scope, innermost first. -/
abbrev Scope := List (String × Value)

/-- The deepest nesting of a value. -/
def depthLimit : Nat := 256

/-- The types that a value can have. -/
inductive Kind where
  | nil | boolean | integer | float | string | keyword | symbol | list | vector | function
  deriving DecidableEq, Repr

/-- The name of a type. -/
def Kind.name : Kind → String
  | nil => "nil"
  | boolean => "boolean"
  | integer => "integer"
  | float => "float"
  | string => "string"
  | keyword => "keyword"
  | symbol => "symbol"
  | list => "list"
  | vector => "vector"
  | function => "function"

namespace Value

instance : Inhabited Value := ⟨.nil⟩

/-- The type of a value. -/
def kind : Value → Kind
  | nil => .nil
  | bool _ => .boolean
  | int _ => .integer
  | float _ => .float
  | str _ => .string
  | keyword _ => .keyword
  | symbol _ => .symbol
  | list _ => .list
  | vector _ => .vector
  | closure _ | builtin _ => .function

/-- All values but `nil` and `false` count as true. -/
def isTruthy : Value → Bool
  | nil | bool false => false
  | _ => true

mutual

/-- The nesting of a value: atoms have depth 0, a list or vector one more than its deepest item, a
closure the depth it was made with. -/
def depth : Value → Nat
  | list items | vector items => 1 + deepest 0 items
  | closure f => f.depth
  | _ => 0

/-- The greatest depth among items, and at least `least`. -/
def deepest (least : Nat) : List Value → Nat
  | [] => least
  | v :: vs => deepest (max least (depth v)) vs

end

mutual

/-- The equality of the language: numbers of different types differ, lists and vectors compare item
by item. -/
def equal : Value → Value → Bool
  | nil, nil => true
  | bool a, bool b => a == b
  | int a, int b => a == b
  | float a, float b => a == b
  | str a, str b => a == b
  | keyword a, keyword b => a == b
  | symbol a, symbol b => a == b
  | list a, list b | list a, vector b | vector a, list b | vector a, vector b => equalItems a b
  | closure f, closure g => f.id == g.id
  | builtin a, builtin b => a == b
  | _, _ => false

/-- Equality of sequences, item by item. -/
def equalItems : List Value → List Value → Bool
  | [], [] => true
  | a :: as, b :: bs => if equal a b then equalItems as bs else false
  | _, _ => false

end

/-- A list or a vector as a sequence; `nil` is the empty one. -/
def seq? : Value → Option (List Value)
  | list items | vector items => some items
  | nil => some []
  | _ => none

mutual

/-- The number of nodes of a value, closures counting as one. -/
def size : Value → Nat
  | list items | vector items => 1 + sizeOfItems items
  | _ => 1

/-- The number of nodes of all items. -/
def sizeOfItems : List Value → Nat
  | [] => 0
  | v :: vs => size v + sizeOfItems vs

end

end Value

/-- The greatest depth of a variable in scope. -/
def Scope.depth (scope : Scope) : Nat :=
  scope.foldl (fun deepest v => max deepest v.2.depth) 0

/-- The innermost variable of a name. -/
def Scope.find? (scope : Scope) (name : String) : Option Value := List.lookup name scope

end HostedRepl.Lisp
