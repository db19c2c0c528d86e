/-
Doubles as exact binary fractions.

* `Double`: what a double denotes. A finite one is a sign, a whole number and a power of two.
* `Double.ofFloat`: the denotation, read from the bits.
* `roundHalfEven`: the nearest whole number to a quotient, a half going to the even neighbour.
* `remainder`, `euclideanRemainder`: the exact remainder of a division of doubles, and the one
  that is never negative.
-/

namespace HostedRepl.Decimal

/-- What a double denotes: no number, an infinity, or `± mantissa · 2 ^ exponent`. -/
inductive Double where
  | nan
  | infinite (negative : Bool)
  | finite (negative : Bool) (mantissa : Nat) (exponent : Int)
  deriving DecidableEq, Repr

/-- The sign is the top bit, the biased exponent the next eleven, and a normal number carries a
leading one that is not stored. -/
def Double.ofFloat (x : Float) : Double :=
  let bits := x.toBits.toNat
  let negative := bits / Nat.pow 2 63 = 1
  let biased : Nat := bits / Nat.pow 2 52 % Nat.pow 2 11
  let fraction := bits % Nat.pow 2 52
  if biased = 2047 then
    if fraction = 0 then .infinite negative else .nan
  else if biased = 0 then .finite negative fraction (-1074)
  else .finite negative (fraction + Nat.pow 2 52) (biased - 1075)

/-- The nearest whole number to `num / den`; a half goes to the even neighbour. -/
def roundHalfEven (num den : Nat) : Nat :=
  let q := num / den
  let r := num % den
  if 2 * r < den then q
  else if den < 2 * r then q + 1
  else q + q % 2

/-- The remainder of `x / y` with the sign of `x`, computed exactly on the binary fractions. -/
def remainder (x y : Float) : Float :=
  match Double.ofFloat x, Double.ofFloat y with
  | .finite negative m e, .finite _ m' e' =>
    if m' = 0 then 0.0 / 0.0
    else
      let unit := min e e'
      let r := m * Nat.pow 2 (e - unit).toNat % (m' * Nat.pow 2 (e' - unit).toNat)
      let size := (Float.ofNat r).scaleB unit
      if negative then -size else size
  | .finite _ _ _, .infinite _ => x
  | _, _ => 0.0 / 0.0

/-- The remainder moved up by `|y|` when it is below zero. -/
def euclideanRemainder (x y : Float) : Float :=
  let r := remainder x y
  if r < 0.0 then r + y.abs else r

end HostedRepl.Decimal
