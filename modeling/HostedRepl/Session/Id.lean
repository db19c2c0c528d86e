/-
Session ids.

An id has 128 bits. It is written as 32 lower-case hexadecimal digits in groups of 8, 4, 4, 4 and
12, and read from four spellings, in either case.

* `SessionId.render`: the canonical text.
* `SessionId.parse?`: the id of a text: 32 digits, the hyphenated form, that form in braces, or
  after `urn:uuid:`.
* `SessionId.numbered`: a family of ids in the form of random ones, one for each serial number.
-/
import HostedRepl.Text.Hex

namespace HostedRepl

/-- Names one session of a client. -/
structure SessionId where
  bits : BitVec 128
  deriving DecidableEq, Repr

namespace SessionId

/-- The 32 digits of an id. -/
def digits (id : SessionId) : List Char :=
  (List.range 32).map fun i => Text.hexDigit (id.bits.toNat / Nat.pow 16 (31 - i) % 16)

/-- The digits in groups of 8, 4, 4, 4 and 12. -/
def hyphenate (ds : List Char) : List Char :=
  ds.take 8 ++ '-' :: (ds.drop 8).take 4 ++ '-' :: (ds.drop 12).take 4 ++
    '-' :: (ds.drop 16).take 4 ++ '-' :: ds.drop 20

/-- The canonical text of an id. -/
def render (id : SessionId) : String := String.ofList (hyphenate id.digits)

/-- The id of 32 hexadecimal digits. -/
def ofDigits? (ds : List Char) : Option SessionId :=
  if ds.length = 32 then
    (ds.foldlM (fun n c => (Text.hexValue? c).map (16 * n + ·)) 0).map fun n => ⟨BitVec.ofNat 128 n⟩
  else none

/-- The id of the hyphenated form. -/
def ofHyphenated? (cs : List Char) : Option SessionId :=
  let ds := cs.take 8 ++ (cs.drop 9).take 4 ++ (cs.drop 14).take 4 ++ (cs.drop 19).take 4 ++
    cs.drop 24
  if cs = hyphenate ds then ofDigits? ds else none

/-- The text after a start that is matched in either case. -/
def afterStart? (start cs : List Char) : Option (List Char) :=
  if (cs.take start.length).map Char.toLower = start then some (cs.drop start.length) else none

/-- The id of a text in one of its spellings. -/
def parse? (s : String) : Option SessionId :=
  let cs := s.toList
  match cs.length with
  | 32 => ofDigits? cs
  | 36 => ofHyphenated? cs
  | 38 =>
    let inner := (cs.drop 1).take 36
    if cs = '{' :: inner ++ ['}'] then ofHyphenated? inner else none
  | 45 => (afterStart? "urn:uuid:".toList cs).bind ofHyphenated?
  | _ => none

/-- The ids with serial numbers. All have the form of a random id: the version 4 and the variant
`10` at their places, `seed` before and between these, and the number in the last 62 bits. -/
def numbered (seed serial : Nat) : SessionId :=
  ⟨BitVec.ofNat 128
    (seed / Nat.pow 2 12 % Nat.pow 2 48 * Nat.pow 2 80 + 4 * Nat.pow 2 76 +
      seed % Nat.pow 2 12 * Nat.pow 2 64 + Nat.pow 2 63 + serial % Nat.pow 2 62)⟩

end SessionId

end HostedRepl
