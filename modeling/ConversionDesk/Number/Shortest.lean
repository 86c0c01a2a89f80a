import ConversionDesk.Number.Binary64

/-!
# Shortest decimals

The decimal with the fewest digits that still rounds to a given binary64 number, found
by exact arithmetic. The reals that round to `m * 2 ^ q` form an interval around it; for
ever finer grids `10 ^ g` the two grid points next to the number are tried, and the first
grid with a point inside the interval gives the digits. Of two points inside, the nearer
is taken, and of two equally near the even one.

## Main definitions

* `Shortest.Interval` — the reals that round to a number, in quarters of its last place
* `Shortest.decimal` — the digits and their power of ten
-/

namespace ConversionDesk

/-- A positive decimal `digits * 10 ^ power`. -/
structure Decimal where
  digits : Nat
  power : Int
deriving DecidableEq, Repr

namespace Shortest

/-- What rounds to a positive number: `centre * unit` is the number itself, and everything
between `low * unit` and `high * unit` rounds to it, where `unit = 2 ^ twos`. The ends
belong to the interval when the significand is even. -/
structure Interval where
  low : Nat
  centre : Nat
  high : Nat
  twos : Int
  closed : Bool

/-- The interval of a positive number. Below a power of two the neighbours are twice as
close, so the lower end moves in. -/
def Interval.around (x : Binary64) : Interval :=
  let m := x.significand
  { low := if m = Nat.pow 2 52 ∧ -1074 < x.exponent then 4 * m - 1 else 4 * m - 2
    centre := 4 * m
    high := 4 * m + 2
    twos := x.exponent - 2
    closed := m % 2 == 0 }

/-- The point of the grid `10 ^ g` that lies in the interval, if one of the centre's two
neighbours does. Both sides of each comparison are multiplied out to natural numbers. -/
def Interval.pick? (i : Interval) (g : Int) : Option Nat :=
  let grid := Nat.pow 10 g.toNat * Nat.pow 2 (-i.twos).toNat
  let unit := Nat.pow 2 i.twos.toNat * Nat.pow 10 (-g).toNat
  let inside (c : Nat) : Bool :=
    if i.closed then i.low * unit ≤ c * grid && c * grid ≤ i.high * unit
    else i.low * unit < c * grid && c * grid < i.high * unit
  let centre := i.centre * unit
  let below := centre / grid
  match inside below, inside (below + 1) with
  | true, true =>
    let down := centre - below * grid
    let up := (below + 1) * grid - centre
    some (if down < up || (down == up && below % 2 == 0) then below else below + 1)
  | true, false => some below
  | false, true => some (below + 1)
  | false, false => none

/-- The first of the grids `10 ^ g`, `10 ^ (g - 1)`, … that has a point in the interval.
The last grid tried falls back on the centre rounded down. -/
def Interval.search (i : Interval) : Nat → Int → Decimal
  | 0, g => ⟨i.centre * (Nat.pow 2 i.twos.toNat * Nat.pow 10 (-g).toNat)
      / (Nat.pow 10 g.toNat * Nat.pow 2 (-i.twos).toNat), g⟩
  | tries + 1, g =>
    match i.pick? g with
    | some digits => ⟨digits, g⟩
    | none => i.search tries (g - 1)

/-- A power of ten above a positive number: `30103 / 100000` bounds the decimal logarithm
of two closely enough over the whole range. -/
def ceilingPower (x : Binary64) : Int :=
  (x.significand.log2 + 1 + x.exponent) * 30103 / 100000 + 2

/-- The shortest decimal that rounds to a number other than zero; seventeen digits always
suffice, and the start is at most three grids too coarse. -/
def decimal (x : Binary64) : Decimal :=
  (Interval.around x).search 21 (ceilingPower x)

end Shortest

end ConversionDesk
