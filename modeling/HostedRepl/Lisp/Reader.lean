/-
Reading forms from text.

The reader takes one character at a time, so what it has read so far is a value: the finished
forms, the brackets and quotes still open, and the token it is inside of. Reading a text is a fold
over its characters, and the end of the text is one more step.

* `Frame`, `Mode`, `Reading`: the open brackets and quotes, the position inside a token, and the
  whole state.
* `Value.ofAtom`: the value of an atom: a literal, a keyword, a number or a symbol.
* `Reading.step`, `Reading.finish`: one character, and the end of the text.
* `read`: the forms of a text.
-/
import HostedRepl.Lisp.Error
import HostedRepl.Text.Blank
import HostedRepl.Decimal.Reading

namespace HostedRepl.Lisp

/-- The two kinds of bracket. -/
inductive Bracket where
  | round
  | square
  deriving DecidableEq, Repr

/-- The closing character of a bracket. -/
def Bracket.close : Bracket → Char
  | round => ')'
  | square => ']'

/-- The value of a closed bracket. -/
def Bracket.build : Bracket → List Value → Value
  | round, items => .list items
  | square, items => .vector items

/-- Something open around the place of reading. -/
inductive Frame where
  /-- A bracket and the items read in it, last item first. -/
  | bracket (b : Bracket) (items : List Value)
  /-- A quote whose form has not been read. -/
  | quote

/-- Where in a token the place of reading is. Characters are kept last one first. -/
inductive Mode where
  | between
  | comment
  | string (acc : List Char)
  /-- After a backslash in a string. -/
  | escape (acc : List Char)
  | atom (acc : List Char)

/-- What has been read so far. -/
structure Reading where
  /-- The finished top-level forms, last one first. -/
  forms : List Value
  /-- The open brackets and quotes, innermost first. -/
  frames : List Frame
  mode : Mode

/-- The form that a quote before `v` stands for. -/
def quoteForm (v : Value) : Value := .list [.symbol "quote", v]

/-- The value of an atom. One that begins with a digit, after at most one sign, has to be a
number. -/
def Value.ofAtom (cs : List Char) : Except ReadError Value :=
  let atom := String.ofList cs
  if atom = "nil" then .ok .nil
  else if atom = "true" then .ok (.bool true)
  else if atom = "false" then .ok (.bool false)
  else
    match cs with
    | ':' :: name => .ok (.keyword (String.ofList name))
    | _ =>
      if ((Decimal.splitSign cs).2.head?.map Char.isDigit).getD false then
        match Decimal.parseInt64? cs, Decimal.parseFloat? cs with
        | some n, _ => .ok (.int n)
        | none, some x => .ok (.float x)
        | none, none => .error (.invalidNumber atom)
      else .ok (.symbol atom)

/-- A character that ends an atom. -/
def isDelimiter (c : Char) : Bool :=
  Text.isBlank c || c == '(' || c == ')' || c == '[' || c == ']' || c == '"' || c == ',' || c == ';'

namespace Reading

/-- Nothing has been read. -/
def start : Reading := ⟨[], [], .between⟩

/-- Add a form to the innermost bracket or to the top level, after closing the quotes before it. -/
def place (forms : List Value) : List Frame → Value → Reading
  | [], v => ⟨v :: forms, [], .between⟩
  | .bracket b items :: frames, v => ⟨forms, .bracket b (v :: items) :: frames, .between⟩
  | .quote :: frames, v => place forms frames (quoteForm v)

/-- Add a finished form. -/
def add (r : Reading) (v : Value) : Reading := place r.forms r.frames v

/-- Open a bracket or a quote, unless too many are open. -/
def enter (r : Reading) (f : Frame) : Except ReadError Reading :=
  if depthLimit ≤ r.frames.length then .error .tooDeep
  else .ok ⟨r.forms, f :: r.frames, .between⟩

/-- Close the innermost bracket. -/
def leave (r : Reading) (b : Bracket) : Except ReadError Reading :=
  match r.frames with
  | .bracket b' items :: frames =>
    if b = b' then .ok (place r.forms frames (b.build items.reverse))
    else .error (.unexpectedClose b.close)
  | _ => .error (.unexpectedClose b.close)

/-- A character that begins a token or stands between tokens. -/
def begin (r : Reading) (c : Char) : Except ReadError Reading :=
  match c with
  | '(' => r.enter (.bracket .round [])
  | '[' => r.enter (.bracket .square [])
  | ')' => r.leave .round
  | ']' => r.leave .square
  | '\'' => r.enter .quote
  | '"' => .ok { r with mode := .string [] }
  | ';' => .ok { r with mode := .comment }
  | ',' => .ok { r with mode := .between }
  | c =>
    if Text.isBlank c then .ok { r with mode := .between }
    else .ok { r with mode := .atom [c] }

/-- The character that an escape stands for. -/
def unescape? (c : Char) : Option Char :=
  match c with
  | 'n' => some '\n'
  | 't' => some '\t'
  | 'r' => some '\r'
  | '"' => some '"'
  | '\\' => some '\\'
  | _ => none

/-- Finish the atom that was being read. -/
def endAtom (r : Reading) (acc : List Char) : Except ReadError Reading :=
  (Value.ofAtom acc.reverse).map r.add

/-- Read one character. -/
def step (r : Reading) (c : Char) : Except ReadError Reading :=
  match r.mode with
  | .between => r.begin c
  | .comment => .ok (if c = '\n' then { r with mode := .between } else r)
  | .string acc =>
    if c = '"' then .ok (r.add (.str (String.ofList acc.reverse)))
    else if c = '\\' then .ok { r with mode := .escape acc }
    else .ok { r with mode := .string (c :: acc) }
  | .escape acc =>
    match unescape? c with
    | some c => .ok { r with mode := .string (c :: acc) }
    | none => .error (.invalidEscape c)
  | .atom acc =>
    if isDelimiter c then (r.endAtom acc).bind fun r => r.begin c
    else .ok { r with mode := .atom (c :: acc) }

/-- The forms, if nothing is open. -/
def closed (r : Reading) : Except ReadError (List Value) :=
  match r.frames with
  | [] => .ok r.forms.reverse
  | .bracket b _ :: _ => .error (.unbalanced b.close)
  | .quote :: _ => .error .danglingQuote

/-- The end of the text. -/
def finish (r : Reading) : Except ReadError (List Value) :=
  match r.mode with
  | .between | .comment => r.closed
  | .string _ | .escape _ => .error .unterminatedString
  | .atom acc => (r.endAtom acc).bind closed

/-- Read characters one after the other. -/
def steps : Reading → List Char → Except ReadError Reading
  | r, [] => .ok r
  | r, c :: cs =>
    match r.step c with
    | .ok r => steps r cs
    | .error e => .error e

theorem steps_append (r : Reading) (cs ds : List Char) :
    r.steps (cs ++ ds) = (r.steps cs).bind fun r => r.steps ds := by
  induction cs generalizing r with
  | nil => rfl
  | cons c cs ih =>
    simp only [List.cons_append, steps]
    cases r.step c with
    | ok r => exact ih r
    | error e => rfl

end Reading

/-- The forms of a text. -/
def read (s : String) : Except ReadError (List Value) :=
  (Reading.start.steps s.toList).bind Reading.finish

end HostedRepl.Lisp
