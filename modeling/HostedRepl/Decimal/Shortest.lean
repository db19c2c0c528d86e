/-
The shortest decimal that reads back as a given double.

The doubles next to `m · 2 ^ q` leave an interval of numbers that round to it. On each grid of
multiples of a power of ten only the two neighbours of the value can be its nearest point, so
going from coarse grids to fine ones and testing the two neighbours finds the fewest digits.

* `Span`: a value and the interval that rounds to it, over one common denominator.
* `Span.onGrid`: the nearest point of a grid inside the interval, if there is one.
* `shortest`: the point of the first grid that has one.
-/

namespace HostedRepl.Decimal

/-- A positive value with the interval of numbers that round to it. All three are numerators over
`den`; the ends belong to the interval when `closed` holds. -/
structure Span where
  low : Nat
  value : Nat
  high : Nat
  den : Nat
  closed : Bool

/-- The interval around `m · 2 ^ q`: half a unit on each side, but only a quarter below the first
number of a binade. The ends round to it when `m` is even. -/
def Span.ofBinary (m : Nat) (q : Int) : Span :=
  let below := if m = Nat.pow 2 52 ∧ -1074 < q then 1 else 2
  let up := Nat.pow 2 q.toNat
  { low := (4 * m - below) * up
    value := 4 * m * up
    high := (4 * m + 2) * up
    den := 4 * Nat.pow 2 (-q).toNat
    closed := m % 2 = 0 }

/-- The multiple `d · 10 ^ e` nearest to the value, if it lies in the interval. -/
def Span.onGrid (s : Span) (tiesUp : Bool) (e : Int) : Option Nat :=
  let scale := Nat.pow 10 (-e).toNat
  let unit := s.den * Nat.pow 10 e.toNat
  let value := s.value * scale
  let inside (d : Nat) : Bool :=
    if s.closed then s.low * scale ≤ d * unit && d * unit ≤ s.high * scale
    else s.low * scale < d * unit && d * unit < s.high * scale
  let d := value / unit
  let rest := 2 * (value % unit)
  let upper := if rest = unit then tiesUp || d % 2 = 1 else unit < rest
  match inside d, inside (d + 1) with
  | true, true => some (if upper then d + 1 else d)
  | true, false => some d
  | false, true => some (d + 1)
  | false, false => none

/-- The first grid with a point in the interval, from `10 ^ e` down. A double has a point on a grid
of seventeen digits, so `grids` is never used up. -/
def Span.search (s : Span) (tiesUp : Bool) : (grids : Nat) → Int → Nat × Int
  | 0, e => (s.value * Nat.pow 10 (-e).toNat / (s.den * Nat.pow 10 e.toNat), e)
  | grids + 1, e =>
    match s.onGrid tiesUp e with
    | some d => (d, e)
    | none => s.search tiesUp grids (e - 1)

/-- The fewest digits `d` and the power `e` such that `d · 10 ^ e` reads back as `m · 2 ^ q`, for a
positive `m`. The search starts above the value, as `30103 / 100000` exceeds the logarithm of
two. -/
def shortest (tiesUp : Bool) (m : Nat) (q : Int) : Nat × Int :=
  (Span.ofBinary m q).search tiesUp 24 ((q + m.log2 + 2) * 30103 / 100000 + 1)

end HostedRepl.Decimal
