/-
Byte strings.

* `Bytes.ofText`, `Bytes.text?`: the UTF-8 bytes of a text, and the text of bytes that are UTF-8.
* `Bytes.ofNat`, `Bytes.ofInt`: decimal digits as bytes.
-/

namespace HostedRepl.Wire

/-- A byte string. -/
abbrev Bytes := List UInt8

namespace Bytes

/-- The UTF-8 bytes of a text. -/
def ofText (s : String) : Bytes := s.toUTF8.data.toList

/-- The text that has these UTF-8 bytes, if there is one. -/
def text? (b : Bytes) : Option String := String.fromUTF8? ⟨b.toArray⟩

/-- The bytes of characters below 128. -/
def ofAscii (cs : List Char) : Bytes := cs.map fun c => c.toNat.toUInt8

/-- The decimal digits of a number. -/
def ofNat (n : Nat) : Bytes := ofAscii (Nat.toDigits 10 n)

/-- The decimal form of an integer, with a minus sign (byte 45) below zero. -/
def ofInt (n : Int) : Bytes :=
  if n < 0 then 45 :: ofNat n.natAbs else ofNat n.natAbs

/-- A decimal digit. -/
def isDigit (b : UInt8) : Bool := 48 ≤ b && b ≤ 57

/-- The value of a decimal digit. -/
def digitValue (b : UInt8) : Nat := b.toNat - 48

theorem text?_ofText (s : String) : text? (ofText s) = some s := by
  have same : (⟨(ofText s).toArray⟩ : ByteArray) = s.toByteArray := by simp [ofText]
  simp only [text?, String.fromUTF8?]
  rw [dif_pos (same ▸ s.isValidUTF8)]
  simp [String.fromUTF8, same]

end Bytes

end HostedRepl.Wire
