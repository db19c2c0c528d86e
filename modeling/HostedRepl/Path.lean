/-
Paths of files.

* `Path.names`: the names along a path as they are followed.
* `Path.components`: the names that tell paths apart. Repeated and trailing separators and the name
  `.` inside a path say nothing.
* `Path.same`: two texts name the same path.
-/

namespace HostedRepl.Path

/-- The path begins at the root. -/
def isAbsolute (path : String) : Bool := path.toList.head? == some '/'

/-- The names along a path. -/
def names (path : String) : List String := (path.splitOn "/").filter fun name => name != ""

/-- The names that tell a path apart; `.` counts only as the first one. -/
def components (path : String) : List String :=
  let names := path.splitOn "/"
  let rest := names.tail.filter fun name => name != "" && name != "."
  match names with
  | "" :: _ => rest
  | first :: _ => first :: rest
  | [] => rest

/-- Two texts name the same path. -/
def same (a b : String) : Bool := isAbsolute a == isAbsolute b && components a == components b

end HostedRepl.Path
