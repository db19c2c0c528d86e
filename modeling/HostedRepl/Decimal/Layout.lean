/-
The written form of a double.

The digits are always the shortest that read back; a `Layout` decides how they are laid out.

* `Layout`: which magnitudes are written positionally, and the marks around them.
* `Layout.render`: the text of a double.
-/
import HostedRepl.Decimal.Double
import HostedRepl.Decimal.Shortest

namespace HostedRepl.Decimal

/-- How a format writes doubles. -/
structure Layout where
  /-- The exponents of the leading digit written positionally, from the first to below the second;
  `none` writes every number positionally. -/
  positional : Option (Int × Int)
  /-- What follows a number without a fraction in positional form. -/
  whole : String
  /-- The sign of an exponent that is not negative. -/
  plus : String
  /-- Of two nearest shortest forms, take the larger; otherwise the one that ends in an even
  digit. -/
  tiesUp : Bool
  /-- The text of a double that is no number. -/
  nan : String
  /-- The text of an infinity, by its sign. -/
  infinity : (negative : Bool) → String

/-- `n` zeros. -/
def zeros (n : Nat) : String := String.ofList (List.replicate n '0')

/-- Digits `ds` times `10 ^ e` without an exponent mark. -/
def positionalText (whole : String) (ds : List Char) (e : Int) : String :=
  let point := ds.length + e
  if 0 ≤ e then String.ofList ds ++ zeros e.toNat ++ whole
  else if 0 < point then
    String.ofList (ds.take point.toNat) ++ "." ++ String.ofList (ds.drop point.toNat)
  else "0." ++ zeros (-point).toNat ++ String.ofList ds

/-- Digits `ds` times `10 ^ e`, with the point after the first digit. -/
def exponentText (plus : String) (ds : List Char) (e : Int) : String :=
  let exponent := e + ds.length - 1
  let fraction := if ds.length ≤ 1 then "" else "." ++ String.ofList (ds.drop 1)
  let sign := if exponent < 0 then "-" else plus
  String.ofList (ds.take 1) ++ fraction ++ "e" ++ sign ++ toString exponent.natAbs

/-- The text of `m · 2 ^ q`. -/
def Layout.magnitude (l : Layout) (m : Nat) (q : Int) : String :=
  if m = 0 then "0" ++ l.whole
  else
    let (d, e) := shortest l.tiesUp m q
    let ds := Nat.toDigits 10 d
    let exponent := e + ds.length - 1
    match l.positional with
    | none => positionalText l.whole ds e
    | some (first, above) =>
      if first ≤ exponent && exponent < above then positionalText l.whole ds e
      else exponentText l.plus ds e

/-- The text of a double. -/
def Layout.render (l : Layout) (x : Float) : String :=
  match Double.ofFloat x with
  | .nan => l.nan
  | .infinite negative => l.infinity negative
  | .finite negative m q => (if negative then "-" else "") ++ l.magnitude m q

end HostedRepl.Decimal
