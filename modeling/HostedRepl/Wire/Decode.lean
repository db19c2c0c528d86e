/-
Reading values from a byte stream.

One value is read at a time, so values may follow one another without separators. A frame, that is
one value with everything inside it, takes at most `frameLimit` bytes and nests at most
`depthLimit` levels.

* `DecodeError`: why no value could be read, with its message.
* `Input`: the unread bytes and how many of them the frame may still take. Every byte read uses up
  one of these, which is why the loops end.
* `Decoder.value`: a value from its first byte on, for a number of nesting levels still open.
* `decode`, `decodeAll`: one value from a stream, and from bytes that hold nothing else.
* `frames`: the values of a stream up to its first error.
-/
import HostedRepl.Wire.Encode
import HostedRepl.Text.Hex
import HostedRepl.Decimal.Reading

namespace HostedRepl.Wire

/-- The greatest number of bytes in a frame. -/
def frameLimit : Nat := 16 * 1024 * 1024

/-- The greatest nesting depth in a frame. -/
def depthLimit : Nat := 64

/-- Why no value could be read. -/
inductive DecodeError where
  /-- The stream ended before a value began. -/
  | ended
  /-- The stream ended inside a value. -/
  | truncated
  /-- No value begins or goes on with this byte. -/
  | unexpectedByte (b : UInt8)
  /-- Not the one written form of a 64-bit integer; `digits` were read before the fault. -/
  | invalidInteger (digits : String)
  | nonStringKey
  | tooLarge
  | tooDeep
  /-- Bytes follow the value where none may. -/
  | trailingBytes
  /-- The frame is a value of another kind than a dictionary. -/
  | notADict
  deriving DecidableEq, Repr

/-- The message of an error. -/
def DecodeError.message : DecodeError → String
  | .ended => "connection closed"
  | .truncated => "stream ended in the middle of a frame"
  | .unexpectedByte b => "unexpected byte 0x" ++ String.ofList (Text.hexByte b)
  | .invalidInteger digits => "invalid integer \"" ++ digits ++ "\""
  | .nonStringKey => "dictionary key is not a byte string"
  | .tooLarge => "frame exceeds " ++ toString frameLimit ++ " bytes"
  | .tooDeep => "frame nested deeper than " ++ toString depthLimit ++ " levels"
  | .trailingBytes => "trailing bytes after frame"
  | .notADict => "frame is not a dictionary"

/-- The peer went away, as opposed to sending something that is no frame. -/
def DecodeError.isDisconnect : DecodeError → Bool
  | .ended | .truncated => true
  | _ => false

/-- The unread bytes, and how many of them the frame may still take. -/
structure Input where
  allowance : Nat
  rest : Bytes

/-- A reader of part of a frame. After an error the input stands where reading stopped. -/
abbrev Decoder := EStateM DecodeError Input

namespace Decoder

/-- The next byte of the frame. -/
def next : Decoder UInt8 := fun input =>
  match input.allowance, input.rest with
  | 0, _ => .error .tooLarge input
  | _, [] => .error .truncated input
  | n + 1, b :: rest => .ok b ⟨n, rest⟩

/-- The first `n` bytes, last byte first, before those in `acc`, and the bytes after them. -/
def splitBytes : (n : Nat) → (acc bytes : Bytes) → Option (Bytes × Bytes)
  | 0, acc, bytes => some (acc, bytes)
  | _ + 1, _, [] => none
  | n + 1, acc, b :: bytes => splitBytes n (b :: acc) bytes

/-- The next `n` bytes of the frame. -/
def take (n : Nat) : Decoder Bytes := fun input =>
  if input.allowance < n then .error .tooLarge input
  else
    match splitBytes n [] input.rest with
    | some (taken, rest) => .ok taken.reverse ⟨input.allowance - n, rest⟩
    | none => .error .truncated { input with rest := [] }

/-- The characters of an integer up to its `e`: a minus sign may come first, and there is room for
`room` characters. They are collected last character first. -/
def integerText : (room : Nat) → (acc : List Char) → Decoder (List Char)
  | room, acc => do
    let b ← next
    if b = 101 then return acc.reverse
    else
      match room with
      | 0 => throw (.invalidInteger (String.ofList acc.reverse))
      | room + 1 =>
        if Bytes.isDigit b || b = 45 && acc.isEmpty then
          integerText room (Char.ofNat b.toNat :: acc)
        else throw (.invalidInteger (String.ofList acc.reverse))

/-- The characters are the one written form of an integer: no empty digits, no leading zero and no
minus sign before zero. -/
def isCanonical : List Char → Bool
  | [] => false
  | ['0'] => true
  | '-' :: c :: cs => c != '0' && (c :: cs).all Char.isDigit
  | c :: cs => c != '0' && (c :: cs).all Char.isDigit

/-- An integer after its `i`. -/
def integer : Decoder Value := do
  let cs ← integerText 20 []
  match if isCanonical cs then Decimal.parseInt64? cs else none with
  | some n => return .int n
  | none => throw (.invalidInteger (String.ofList cs))

/-- The length of a byte string up to its colon, from the value of the digits read so far. The
allowance bounds the digits, as zeros may lead without end. -/
def length : (allowance n : Nat) → Decoder Nat
  | 0, _ => throw .tooLarge
  | allowance + 1, n => do
    let b ← next
    if b = 58 then return n
    else if Bytes.isDigit b then
      let n := 10 * n + Bytes.digitValue b
      if frameLimit < n then throw .tooLarge else length allowance n
    else throw (.unexpectedByte b)

/-- A byte string from its first digit on. -/
def byteString (first : UInt8) : Decoder Bytes := do
  let n ← length (← get).allowance (Bytes.digitValue first)
  take n

/-- The items of a list up to its `e`, last item first. -/
def items (value : UInt8 → Decoder Value) : (allowance : Nat) → (acc : List Value) →
    Decoder (List Value)
  | 0, _ => throw .tooLarge
  | allowance + 1, acc => do
    let b ← next
    if b = 101 then return acc
    else items value allowance ((← value b) :: acc)

/-- The entries of a dictionary up to its `e`, in any order; a later entry replaces an earlier one
with its key. -/
def entries (value : UInt8 → Decoder Value) : (allowance : Nat) → (acc : Fields) →
    Decoder Fields
  | 0, _ => throw .tooLarge
  | allowance + 1, acc => do
    let b ← next
    if b = 101 then return acc
    else if Bytes.isDigit b then
      let key ← byteString b
      let v ← value (← next)
      entries value allowance (acc.insert key v)
    else throw .nonStringKey

/-- A value from its first byte on, when `levels` more levels of nesting are open. -/
def value : (levels : Nat) → (first : UInt8) → Decoder Value
  | 0, _ => throw .tooDeep
  | levels + 1, first =>
    if first = 105 then integer
    else if Bytes.isDigit first then .bytes <$> byteString first
    else if first = 108 then do
      let acc ← items (value levels) (← get).allowance []
      return .list acc.reverse
    else if first = 100 then do
      return .dict (← entries (value levels) (← get).allowance [])
    else throw (.unexpectedByte first)

end Decoder

/-- What reading one value from a stream gives: the outcome, how many bytes were read, and the
bytes that follow. -/
structure Decoded where
  result : Except DecodeError Value
  consumed : Nat
  rest : Bytes

/-- Read one value. -/
def decode : Bytes → Decoded
  | [] => ⟨.error .ended, 0, []⟩
  | b :: rest =>
    match Decoder.value (depthLimit + 1) b ⟨frameLimit - 1, rest⟩ with
    | .ok v input => ⟨.ok v, frameLimit - input.allowance, input.rest⟩
    | .error e input => ⟨.error e, frameLimit - input.allowance, input.rest⟩

/-- Read one value from bytes that hold nothing else. -/
def decodeAll (bytes : Bytes) : Except DecodeError Value :=
  let decoded := decode bytes
  match decoded.result with
  | .ok v => if decoded.rest.isEmpty then .ok v else .error .trailingBytes
  | .error e => .error e

/-- The values of a stream, each with the number of bytes read up to its end, and the error that
ends them. At most `steps` values are read. -/
def framesWithin : (steps position : Nat) → Bytes → List (Value × Nat) × DecodeError
  | 0, _, _ => ([], .ended)
  | steps + 1, position, bytes =>
    let decoded := decode bytes
    match decoded.result with
    | .error e => ([], e)
    | .ok v =>
      let position := position + decoded.consumed
      let (values, e) := framesWithin steps position decoded.rest
      ((v, position) :: values, e)

/-- The values of a stream, each with the number of bytes read up to its end, and the error that
ends them. A value takes a byte or more, so there are no more values than bytes. -/
def frames (bytes : Bytes) : List (Value × Nat) × DecodeError :=
  framesWithin (bytes.length + 1) 0 bytes

end HostedRepl.Wire
