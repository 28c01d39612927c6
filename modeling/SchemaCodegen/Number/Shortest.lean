import SchemaCodegen.Number.Binary64

/-!
# Shortest decimals

The shortest decimal of a magnitude `m · 2 ^ q` is the one of fewest digits among those that
round to the magnitude, and of these the nearest. The numbers that round to it fill the interval
between the midpoints to its neighbours, with its ends when `m` is even. On each grid of
multiples of a power of ten only the two neighbours of the magnitude need a test, so the search
goes from coarse grids to fine ones and stops at the first hit.
-/

namespace SchemaCodegen.Number

/-- The decimal `digits · 10 ^ exponent`. -/
structure Scientific where
  digits : Nat
  exponent : Int
deriving DecidableEq, Repr

/-- A magnitude with the ends of its interval, all in units of `2 ^ (q - 2)`. -/
structure Interval where
  low : Nat
  middle : Nat
  high : Nat
  /-- The exponent `q - 2` of the unit. -/
  unit : Int
  closed : Bool
deriving DecidableEq, Repr

/-- The interval of numbers that round to `m · 2 ^ q`. Below a power of two the numbers lie twice
as close, unless they are as close as they ever get. -/
def Interval.of (m : Nat) (q : Int) : Interval where
  low := if m = Nat.pow 2 52 ∧ -1074 < q then 4 * m - 1 else 4 * m - 2
  middle := 4 * m
  high := 4 * m + 2
  unit := q - 2
  closed := m % 2 == 0

/-- The multiple of `10 ^ k` next to the middle that lies in the interval, the nearer of two, the
even one of two that are equally near. -/
def Interval.onGrid? (i : Interval) (k : Int) : Option Nat :=
  let up := Nat.pow 2 i.unit.toNat * Nat.pow 10 (-k).toNat
  let one := Nat.pow 2 (-i.unit).toNat * Nat.pow 10 k.toNat
  let below := i.middle * up / one
  let inside (n : Nat) : Bool :=
    if i.closed then decide (i.low * up ≤ n * one) && decide (n * one ≤ i.high * up)
    else decide (i.low * up < n * one) && decide (n * one < i.high * up)
  let downDistance := i.middle * up - below * one
  let upDistance := (below + 1) * one - i.middle * up
  match inside below, inside (below + 1) with
  | true, true =>
    if downDistance < upDistance || (downDistance == upDistance && below % 2 == 0) then some below
    else some (below + 1)
  | true, false => some below
  | false, true => some (below + 1)
  | false, false => none

/-- The first hit on the grids `10 ^ k`, `10 ^ (k - 1)`, … -/
def Interval.search (i : Interval) : Nat → Int → Option Scientific
  | 0, _ => none
  | fuel + 1, k =>
    match i.onGrid? k with
    | some digits => some ⟨digits, k⟩
    | none => i.search fuel (k - 1)

/-- The shortest decimal of a positive finite magnitude. The first grid is coarser than the
magnitude, and 17 digits always suffice. -/
def shortest (x : Binary64) : Scientific :=
  let m := x.significand
  let q := x.exponent
  let coarsest : Int := ((m.log2 + q + 1) * 30103) / 100000 + 2
  ((Interval.of m q).search 25 coarsest).getD ⟨m, 0⟩

end SchemaCodegen.Number
