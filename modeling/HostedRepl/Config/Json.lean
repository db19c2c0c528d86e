/-
The pieces of a JSON text.

The functions here read one piece from the start of a text and give what follows it. Values that
nobody asks for are skipped with less scrutiny than the others: their numbers may be of any size,
and their strings may hold halves of surrogate pairs.

* `string?`: the rest of a string after its opening quote.
* `Literal`, `literal?`: a number as written.
* `Literal.number?`: what a literal denotes. The digits are collected in 64 bits and scaled by a
  power of ten in floating point, so a long literal is not always rounded to the nearest double.
* `skip?`: any value.
* `escaped`: a string as it is written.
-/
import HostedRepl.Decimal.Reading
import HostedRepl.Text.Hex

namespace HostedRepl.Json

/-- The text after blanks. -/
def skipBlanks (cs : List Char) : List Char :=
  cs.dropWhile fun c => c == ' ' || c == '\n' || c == '\t' || c == '\r'

/-! ### Strings -/

/-- Where in a string the place of reading is. -/
inductive StringMode where
  | plain
  /-- After a backslash. -/
  | escape
  /-- In an escape with four digits, `missing` of which are left to read; `high` is the first half
  of the pair it may complete. -/
  | code (high : Option Nat) (missing : Nat) (value : Nat)
  /-- After the first half of a surrogate pair. -/
  | pair (high : Nat)
  /-- After that and a backslash. -/
  | pairEscape (high : Nat)

/-- The character that a one-letter escape stands for. -/
def unescape? (c : Char) : Option Char :=
  match c with
  | '"' => some '"'
  | '\\' => some '\\'
  | '/' => some '/'
  | 'b' => some '\x08'
  | 'f' => some '\x0c'
  | 'n' => some '\n'
  | 'r' => some '\r'
  | 't' => some '\t'
  | _ => none

/-- What a finished escape with code `n` adds to a string, and how reading goes on. Unless
`strict`, the halves of surrogate pairs may stand alone. -/
def endCode (strict : Bool) (high : Option Nat) (n : Nat) (acc : List Char) :
    Option (StringMode × List Char) :=
  match high with
  | some h =>
    if 0xDC00 ≤ n ∧ n ≤ 0xDFFF then
      some (.plain, Char.ofNat (0x10000 + (h - 0xD800) * 0x400 + (n - 0xDC00)) :: acc)
    else none
  | none =>
    if 0xD800 ≤ n ∧ n ≤ 0xDFFF then
      if !strict then some (.plain, acc)
      else if n ≤ 0xDBFF then some (.pair n, acc)
      else none
    else some (.plain, Char.ofNat n :: acc)

/-- The characters of a string up to its closing quote, collected last one first, and the text
after it. -/
def stringFrom (strict : Bool) : StringMode → (acc : List Char) → List Char →
    Option (List Char × List Char)
  | _, _, [] => none
  | .plain, acc, c :: cs =>
    if c = '"' then some (acc.reverse, cs)
    else if c = '\\' then stringFrom strict .escape acc cs
    else if c.toNat < 32 then none
    else stringFrom strict .plain (c :: acc) cs
  | .escape, acc, c :: cs =>
    if c = 'u' then stringFrom strict (.code none 4 0) acc cs
    else
      match unescape? c with
      | some d => stringFrom strict .plain (d :: acc) cs
      | none => none
  | .code high missing value, acc, c :: cs =>
    match Text.hexValue? c with
    | none => none
    | some d =>
      if missing ≤ 1 then
        match endCode strict high (16 * value + d) acc with
        | some (mode, acc) => stringFrom strict mode acc cs
        | none => none
      else stringFrom strict (.code high (missing - 1) (16 * value + d)) acc cs
  | .pair high, acc, c :: cs =>
    if c = '\\' then stringFrom strict (.pairEscape high) acc cs else none
  | .pairEscape high, acc, c :: cs =>
    if c = 'u' then stringFrom strict (.code (some high) 4 0) acc cs else none

/-- A string after its opening quote. -/
def string? (cs : List Char) : Option (String × List Char) :=
  (stringFrom true .plain [] cs).map fun (s, rest) => (String.ofList s, rest)

/-! ### Numbers -/

/-- A number as written. -/
structure Literal where
  negative : Bool
  whole : List Char
  /-- The digits after the point; empty without one. -/
  fraction : List Char
  /-- The sign and the digits of the exponent. -/
  exponent : Option (Bool × List Char)

/-- What a literal denotes. -/
inductive Number where
  /-- A whole number that was written as one. -/
  | whole (n : Int)
  | float (x : Float)

/-- The fraction of a number, at least one digit after a point. -/
def fraction? : List Char → Option (List Char × List Char)
  | '.' :: cs =>
    let ds := cs.takeWhile Char.isDigit
    if ds.isEmpty then none else some (ds, cs.dropWhile Char.isDigit)
  | cs => some ([], cs)

/-- The exponent of a number, at least one digit after its mark and sign. -/
def exponent? (cs : List Char) : Option (Option (Bool × List Char) × List Char) :=
  match cs with
  | c :: rest =>
    if c = 'e' ∨ c = 'E' then
      let (negative, body) := Decimal.splitSign rest
      let ds := body.takeWhile Char.isDigit
      if ds.isEmpty then none else some (some (negative, ds), body.dropWhile Char.isDigit)
    else some (none, cs)
  | [] => some (none, [])

/-- A number as written: no plus sign and no leading zeros. -/
def literal? (cs : List Char) : Option (Literal × List Char) := do
  let (negative, body) := match cs with
    | '-' :: rest => (true, rest)
    | _ => (false, cs)
  let whole := body.takeWhile Char.isDigit
  if whole.isEmpty || whole.length > 1 && whole.head? == some '0' then none
  else
    let (fraction, rest) ← fraction? (body.dropWhile Char.isDigit)
    let (exponent, rest) ← exponent? rest
    some (⟨negative, whole, fraction, exponent⟩, rest)

/-- Collect digits as long as the result fits in 64 bits; the remaining ones are given back. -/
def collect (n : Nat) : List Char → Nat × List Char
  | [] => (n, [])
  | d :: ds =>
    let next := 10 * n + (d.toNat - 48)
    if next < Nat.pow 2 64 then collect next ds else (n, d :: ds)

/-- Ten to the power `e`, rounded to a double. -/
def powerOfTen (e : Nat) : Float := Float.ofScientific 1 false e

/-- Divide a number of at most 64 bits by ten to the power `e`. The powers of ten that are doubles
end at the 308th, so a far exponent takes a second step, after which nothing is left. -/
def scaleDown (x : Float) (e : Nat) : Float :=
  if e ≤ 308 then x / powerOfTen e
  else if e ≤ 616 then x / powerOfTen 308 / powerOfTen (e - 308)
  else 0.0

/-- Scale by a power of ten; nothing beyond the greatest double is accepted. -/
def scale? (x : Float) (e : Int) : Option Float :=
  if e < 0 then some (scaleDown x e.natAbs)
  else if 308 < e then if x == 0.0 then some x else none
  else
    let y := x * powerOfTen e.toNat
    if y.isInf then none else some y

/-- What a literal denotes. -/
def Literal.number? (l : Literal) : Option Number :=
  let (n, more) := collect 0 l.whole
  if more.isEmpty && l.fraction.isEmpty && l.exponent.isNone then
    if !l.negative then some (.whole n)
    else if n = 0 ∨ Nat.pow 2 63 < n then some (.float (-(Float.ofNat n)))
    else some (.whole (-n))
  else
    let (n, unused) := collect n l.fraction
    let places : Int := more.length - (l.fraction.length - unused.length)
    let exponent : Option Int :=
      match l.exponent with
      | none => some places
      | some (negative, ds) =>
        let e : Int := Decimal.cappedValue (Nat.pow 2 31) ds
        -- An exponent of more than 31 bits leaves zero, or a number that is too large.
        if Int.pow 2 31 ≤ e then if n = 0 ∨ negative then none else some e
        else some (if negative then places - e else places + e)
    let size := match exponent with
      | some e => scale? (Float.ofNat n) e
      | none => some 0.0
    size.map fun x => .float (if l.negative then -x else x)

/-! ### Any value -/

/-- What is expected next while skipping. -/
inductive Expecting where
  | value
  | key
  /-- A comma or a closing bracket. -/
  | more

/-- The text after a word. -/
def afterWord? (word cs : List Char) : Option (List Char) :=
  if word.isPrefixOf cs then some (cs.drop word.length) else none

/-- The text after a value that is no array or object. -/
def skipAtom? (cs : List Char) : Option (List Char) :=
  match cs with
  | '"' :: rest => (stringFrom false .plain [] rest).map Prod.snd
  | 'n' :: _ => afterWord? "null".toList cs
  | 't' :: _ => afterWord? "true".toList cs
  | 'f' :: _ => afterWord? "false".toList cs
  | _ => (literal? cs).map Prod.snd

/-- The text after a value inside the open brackets `stack`, innermost first, by their closing
characters. Every step takes a character or more, so `steps` bounds them by the length of the
text. -/
def skipFrom : (steps : Nat) → Expecting → (stack : List Char) → List Char → Option (List Char)
  | 0, _, _, _ => none
  | steps + 1, .value, stack, cs =>
    match skipBlanks cs with
    | '[' :: rest =>
      match skipBlanks rest with
      | ']' :: rest => skipFrom steps .more stack rest
      | rest => skipFrom steps .value (']' :: stack) rest
    | '{' :: rest =>
      match skipBlanks rest with
      | '}' :: rest => skipFrom steps .more stack rest
      | rest => skipFrom steps .key ('}' :: stack) rest
    | rest =>
      match skipAtom? rest with
      | some rest => skipFrom steps .more stack rest
      | none => none
  | steps + 1, .key, stack, cs =>
    match skipBlanks cs with
    | '"' :: rest =>
      match (stringFrom false .plain [] rest).map fun (_, rest) => skipBlanks rest with
      | some (':' :: rest) => skipFrom steps .value stack rest
      | _ => none
    | _ => none
  | _ + 1, .more, [], cs => some cs
  | steps + 1, .more, close :: stack, cs =>
    match skipBlanks cs with
    | c :: rest =>
      if c = close then skipFrom steps .more stack rest
      else if c = ',' then
        skipFrom steps (if close = '}' then .key else .value) (close :: stack) rest
      else none
    | [] => none

/-- The text after any value. -/
def skip? (cs : List Char) : Option (List Char) := skipFrom (cs.length + 1) .value [] cs

/-! ### Writing -/

/-- How a character is written in a string. -/
def escapeChar (c : Char) : String :=
  match c with
  | '"' => "\\\""
  | '\\' => "\\\\"
  | '\x08' => "\\b"
  | '\x0c' => "\\f"
  | '\n' => "\\n"
  | '\r' => "\\r"
  | '\t' => "\\t"
  | c =>
    if c.toNat < 32 then "\\u00" ++ String.ofList (Text.hexByte c.toNat.toUInt8) else c.toString

/-- A string as it is written. -/
def escaped (s : String) : String := s.foldl (fun out c => out ++ escapeChar c) "\"" ++ "\""

end HostedRepl.Json
