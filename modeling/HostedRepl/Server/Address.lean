/-
Numeric addresses.

* `Address`: an address of version 4 or 6.
* `Address.parseV4?`: one to four numbers between points, each decimal, octal after a leading zero,
  or hexadecimal after `0x`.
* `Address.parseV6?`: groups of hexadecimal digits between colons, of which one run of zeros may be
  left out and the last two may be written as an address of version 4.
* `Address.ofHost?`: the address of a host that is given by number or is the local one.
* `isHostName`: a text that may be looked up as the name of a host.
* `Endpoint`: an address with a port.
-/
import HostedRepl.Text.Hex

namespace HostedRepl

/-- A numeric address. -/
inductive Address where
  | v4 (bits : Nat)
  /-- The scope tells the networks of a system apart; 0 stands for none. -/
  | v6 (bits scope : Nat)
  deriving DecidableEq, Repr

/-- An address with a port. -/
structure Endpoint where
  address : Address
  port : Nat
  deriving DecidableEq, Repr

namespace Address

/-- The address leads back to the same system. -/
def isLoopback : Address → Bool
  | v4 bits => bits / Nat.pow 2 24 = 127
  | v6 bits _ => bits = 1

/-- The address of version 4 that one of version 6 stands for. -/
def mapped? : Address → Option Nat
  | v4 _ => none
  | v6 bits _ => if bits / Nat.pow 2 32 = 0xffff then some (bits % Nat.pow 2 32) else none

/-! ### Version 4 -/

/-- The value of one or more digits in a base. -/
def digits? (base : Nat) (ds : List Char) : Option Nat :=
  if ds.isEmpty then none
  else
    ds.foldlM
      (fun n c => ((Text.hexValue? c).filter (· < base)).map fun d => base * n + d) 0

/-- A number: hexadecimal after `0x`, octal after another leading zero, and decimal otherwise. -/
def number? : List Char → Option Nat
  | '0' :: 'x' :: ds => digits? 16 ds
  | '0' :: 'X' :: ds => digits? 16 ds
  | '0' :: ds => digits? 8 ('0' :: ds)
  | ds => digits? 10 ds

/-- The bits of an address given by one to four numbers. All but the last are single bytes, and the
last one fills what is left. -/
def ofNumbers? (left : Nat) : List Nat → Option Nat
  | [] => none
  | [n] => if n < Nat.pow 256 left then some n else none
  | n :: ns =>
    if n < 256 ∧ 1 < left then
      (ofNumbers? (left - 1) ns).map fun rest => n * Nat.pow 256 (left - 1) + rest
    else none

/-- An address of version 4 in any of its forms. -/
def parseV4? (text : String) : Option Nat :=
  ((text.splitOn ".").mapM fun part => number? part.toList).bind (ofNumbers? 4)

/-! ### Version 6 -/

/-- A group of one to four hexadecimal digits. -/
def group? (text : String) : Option Nat :=
  if text.length ≤ 4 then digits? 16 text.toList else none

/-- A byte in decimal digits, without leading zeros. -/
def byte? (text : String) : Option Nat :=
  let ds := text.toList
  if ds.length ≤ 3 && (ds.length ≤ 1 || ds.head? != some '0') then
    (digits? 10 ds).filter (· < 256)
  else none

/-- The two groups of an address of version 4 in its four-part form. -/
def dotted? (text : String) : Option (List Nat) :=
  match (text.splitOn ".").mapM byte? with
  | some [a, b, c, d] => some [256 * a + b, 256 * c + d]
  | _ => none

/-- Groups in a row; where `atEnd` holds, the last two may have the dotted form. -/
def groups? (atEnd : Bool) : List String → Option (List Nat)
  | [] => some []
  | [text] =>
    match group? text with
    | some n => some [n]
    | none => if atEnd then dotted? text else none
  | text :: texts => do
    let n ← group? text
    let ns ← groups? atEnd texts
    return n :: ns

/-- The groups on one side of a run of zeros that is left out. -/
def side? (atEnd : Bool) (text : String) : Option (List Nat) :=
  if text = "" then some [] else groups? atEnd (text.splitOn ":")

/-- The eight groups of an address; a run that is left out stands for one zero or more. -/
def eightGroups? (text : String) : Option (List Nat) :=
  match text.splitOn "::" with
  | [whole] => (groups? true (whole.splitOn ":")).filter fun gs => gs.length = 8
  | [front, back] => do
    let front ← side? false front
    let back ← side? true back
    let gap := 8 - (front.length + back.length)
    if 1 ≤ gap then some (front ++ List.replicate gap 0 ++ back) else none
  | _ => none

/-- An address of version 6, with a scope after a percent sign. -/
def parseV6? (text : String) : Option Address := do
  let (address, scope) ← match text.splitOn "%" with
    | [address] => some (address, 0)
    | [address, scope] =>
      ((digits? 10 scope.toList).filter (· < Nat.pow 2 32)).map fun n => (address, n)
    | _ => none
  let gs ← eightGroups? address
  return v6 (gs.foldl (fun n g => 65536 * n + g) 0) scope

/-! ### Hosts -/

/-- The text between brackets around a whole text. -/
def unbracketed? (text : String) : Option String :=
  match text.toList with
  | '[' :: cs => if cs.getLast? = some ']' then some (String.ofList cs.dropLast) else none
  | _ => none

/-- The address of a host that is given by number or is the local one. One of version 6 may stand in
brackets. -/
def ofHost? (host : String) : Option Address :=
  match unbracketed? host with
  | some inner => parseV6? inner
  | none =>
    if host.contains ':' then parseV6? host
    else if host.map Char.toLower = "localhost" then some (v4 (127 * Nat.pow 2 24 + 1))
    else (parseV4? host).map v4

/-- The text of an address. -/
def text : Address → String
  | v4 bits => ".".intercalate ([24, 16, 8, 0].map fun shift => toString (bits / Nat.pow 2 shift % 256))
  | v6 bits scope =>
    let groups := [112, 96, 80, 64, 48, 32, 16, 0].map fun shift =>
      Text.hex (bits / Nat.pow 2 shift % 65536)
    let address := if bits = 0 then "::" else ":".intercalate groups
    "[" ++ address ++ (if scope = 0 then "" else "%" ++ toString scope) ++ "]"

end Address

/-- The text of an endpoint. -/
def Endpoint.text (e : Endpoint) : String := e.address.text ++ ":" ++ toString e.port

/-! ### Names -/

/-- A character of a host name. -/
def isNameChar (c : Char) : Bool := c.isAlphanum || c == '-' || c == '_'

/-- A name of a host: labels of 1 to 63 characters between points, 253 characters in all, and no
hyphen in front. A point may follow, or stand for the root of all names. -/
def isHostName (text : String) : Bool :=
  let labels := text.splitOn "."
  let labels := if labels.getLast? = some "" then labels.dropLast else labels
  text == "." ||
    text.length ≤ 253 && !text.startsWith "-" &&
      labels.all fun label => 1 ≤ label.length && label.length ≤ 63 && label.all isNameChar

end HostedRepl
