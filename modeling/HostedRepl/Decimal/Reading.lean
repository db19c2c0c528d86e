/-
Numbers read from text.

* `int64?`: a whole number as a 64-bit one, if it fits.
* `digitsValue`, `cappedValue`: the value of digits, and the same for callers that only care for it
  below a bound; `cappedValue_eq` and `le_cappedValue` tie the two together.
* `parseInt64?`: an optional sign and digits, within 64 bits.
* `parseFloat?`: a decimal with optional sign, point and exponent, or the name of an infinity or of
  the value that is no number, rounded to the nearest double.
-/

namespace HostedRepl.Decimal

/-- The 64-bit number equal to `n`, if there is one. -/
def int64? (n : Int) : Option Int64 :=
  if -Int.pow 2 63 ≤ n ∧ n < Int.pow 2 63 then some (Int64.ofInt n) else none

/-- The value of decimal digits, the most significant first. -/
def digitsValue (ds : List Char) : Nat :=
  ds.foldl (fun n c => 10 * n + (c.toNat - 48)) 0

/-- The value of decimal digits of which those after it has reached `cap` are ignored. -/
def cappedValue (cap : Nat) (ds : List Char) : Nat :=
  ds.foldl (fun n c => if n < cap then 10 * n + (c.toNat - 48) else n) 0

theorem le_foldl_digits (ds : List Char) (n : Nat) :
    n ≤ ds.foldl (fun n c => 10 * n + (c.toNat - 48)) n := by
  induction ds generalizing n with
  | nil => exact Nat.le_refl n
  | cons c ds ih => exact Nat.le_trans (by omega) (ih (10 * n + (c.toNat - 48)))

theorem foldl_capped_of_le (cap : Nat) (ds : List Char) {n : Nat} (h : cap ≤ n) :
    ds.foldl (fun n c => if n < cap then 10 * n + (c.toNat - 48) else n) n = n := by
  induction ds with
  | nil => rfl
  | cons c ds ih => rw [List.foldl_cons, if_neg (Nat.not_lt.2 h)]; exact ih

/-- Below the bound nothing is ignored. -/
theorem cappedValue_eq {cap : Nat} {ds : List Char} (h : digitsValue ds < cap) :
    cappedValue cap ds = digitsValue ds := by
  suffices ∀ (ds : List Char) (n : Nat), ds.foldl (fun n c => 10 * n + (c.toNat - 48)) n < cap →
      ds.foldl (fun n c => if n < cap then 10 * n + (c.toNat - 48) else n) n =
        ds.foldl (fun n c => 10 * n + (c.toNat - 48)) n from this ds 0 h
  intro ds
  induction ds with
  | nil => intro n _; rfl
  | cons c ds ih =>
    intro n hn
    have below : n < cap := Nat.lt_of_le_of_lt (le_foldl_digits (c :: ds) n) hn
    rw [List.foldl_cons, if_pos below]
    exact ih _ hn

/-- A value that is not below the bound shows as one that is not. -/
theorem le_cappedValue {cap : Nat} {ds : List Char} (h : cap ≤ digitsValue ds) :
    cap ≤ cappedValue cap ds := by
  suffices ∀ (ds : List Char) (n : Nat), cap ≤ ds.foldl (fun n c => 10 * n + (c.toNat - 48)) n →
      cap ≤ ds.foldl (fun n c => if n < cap then 10 * n + (c.toNat - 48) else n) n from this ds 0 h
  intro ds
  induction ds with
  | nil => intro n hn; exact hn
  | cons c ds ih =>
    intro n hn
    by_cases below : n < cap
    · rw [List.foldl_cons, if_pos below]
      exact ih _ hn
    · rw [foldl_capped_of_le cap _ (Nat.not_lt.1 below)]
      exact Nat.not_lt.1 below

/-- A leading sign, and what follows it. -/
def splitSign : List Char → Bool × List Char
  | '-' :: cs => (true, cs)
  | '+' :: cs => (false, cs)
  | cs => (false, cs)

/-- A nonempty run of digits and nothing else. -/
def parseNat? (cs : List Char) : Option Nat :=
  if !cs.isEmpty && cs.all Char.isDigit then some (digitsValue cs) else none

/-- An optional sign and at least one digit, within 64 bits. -/
def parseInt64? (cs : List Char) : Option Int64 :=
  let (negative, ds) := splitSign cs
  if !ds.isEmpty && ds.all Char.isDigit then
    let n : Int := cappedValue (Nat.pow 2 64) ds
    int64? (if negative then -n else n)
  else none

/-- The double nearest to `± m · 10 ^ e`. The exponent is compared with the range of doubles first,
so that a far exponent costs nothing. -/
def nearestFloat (negative : Bool) (m : Nat) (e : Int) : Float :=
  let places := (Nat.toDigits 10 m).length + e
  let size :=
    if m = 0 ∨ places < -330 then 0.0
    else if 310 < places then 1.0 / 0.0
    else Float.ofScientific m (e < 0) e.natAbs
  if negative then -size else size

/-- An exponent mark followed by a whole number, or nothing at all. The digits of an exponent after
it has reached `2 ^ 16` are ignored, which shows only beside as many written zeros. -/
def parseExponent? : List Char → Option Int
  | [] => some 0
  | c :: cs =>
    if c = 'e' ∨ c = 'E' then
      let (negative, ds) := splitSign cs
      if !ds.isEmpty && ds.all Char.isDigit then
        let n : Int := cappedValue (Nat.pow 2 16) ds
        some (if negative then -n else n)
      else none
    else none

/-- The digits of a number that are looked at one by one. A double, and the midpoint between two of
them, has no more than 767, so of the digits after these it only matters whether all are zero. -/
def digitLimit : Nat := 800

/-- Digits as a number `m` and a power of ten `e`: they round to the same double as `m · 10 ^ e`. -/
def significand (ds : List Char) : Nat × Nat :=
  let ds := ds.dropWhile (· == '0')
  let more := ds.drop digitLimit
  let m := digitsValue (ds.take digitLimit)
  if more.isEmpty then (m, 0)
  else (10 * m + (if more.all (· == '0') then 0 else 1), more.length - 1)

/-- The digits before an optional point, those after it, and what follows. -/
def splitPoint (cs : List Char) : List Char × List Char × List Char :=
  let whole := cs.takeWhile Char.isDigit
  match cs.dropWhile Char.isDigit with
  | '.' :: rest => (whole, rest.takeWhile Char.isDigit, rest.dropWhile Char.isDigit)
  | rest => (whole, [], rest)

/-- A decimal without sign: digits with an optional point among or around them, at least one digit
in all, and an optional exponent. -/
def parseDecimal? (negative : Bool) (cs : List Char) : Option Float := do
  let (whole, fraction, rest) := splitPoint cs
  if whole.isEmpty && fraction.isEmpty then none
  else
    let exponent ← parseExponent? rest
    let (m, e) := significand (whole ++ fraction)
    some (nearestFloat negative m (exponent - fraction.length + e))

/-- A double from its text; the names of the special values are read in any case. -/
def parseFloat? (cs : List Char) : Option Float :=
  let (negative, body) := splitSign cs
  match String.ofList (body.map Char.toLower) with
  | "nan" => some (0.0 / 0.0)
  | "inf" | "infinity" => some (if negative then -(1.0 / 0.0) else 1.0 / 0.0)
  | _ => parseDecimal? negative body

end HostedRepl.Decimal
