/- digest: The fewest decimal digits that read back as a given number, nearest to it among those. -/

import Assay.Number.Double

set_option autoImplicit false
set_option relaxedAutoImplicit false

namespace Assay.Shortest

/-- The numbers that round to a given one, as an interval on a common scale with its centre; the
ends belong to it when the significand is even. -/
structure Interval where
  low : Nat
  centre : Nat
  high : Nat
  closed : Bool

/-- Four units per half step of the significand keep both ends whole: below a power of two the lower
neighbour is half as far away. -/
def interval (d : Double) : Interval :=
  let m := d.significand
  let lowGap := if m = Nat.pow 2 52 ∧ 0 < d.shift then 1 else 2
  let unit := Nat.pow 2 d.shift
  ⟨(4 * m - lowGap) * unit, 4 * m * unit, (4 * m + 2) * unit, m % 2 = 0⟩

/-- Whether a point on the interval's scale rounds to the number. -/
def Interval.holds (i : Interval) (scale point : Nat) : Bool :=
  if i.closed then i.low * scale ≤ point && point ≤ i.high * scale
  else i.low * scale < point && point < i.high * scale

/-- The multiple of `step` in the interval next to its centre, as a count of steps; all bounds are
taken times `scale`. Of two at the same distance the even one is chosen. -/
def Interval.candidate? (i : Interval) (scale step : Nat) : Option Nat :=
  let centre := i.centre * scale
  let below := centre / step
  let above := below + 1
  match i.holds scale (below * step), i.holds scale (above * step) with
  | false, false => none
  | true, false => some below
  | false, true => some above
  | true, true =>
    let down := centre - below * step
    let up := above * step - centre
    if down < up then some below
    else if up < down then some above
    else some (below + below % 2)

/-- The interval's unit is a quarter of `2 ^ -1074`; multiples of `10 ^ k` on that scale. -/
def onGrid? (i : Interval) (k : Int) : Option Nat :=
  if 0 ≤ k then i.candidate? 1 (4 * Nat.pow 2 1074 * Nat.pow 10 k.toNat)
  else i.candidate? (Nat.pow 10 (-k).toNat) (4 * Nat.pow 2 1074)

def reaches (d : Double) (e : Int) : Bool :=
  if 0 ≤ e then Nat.pow 2 1074 * Nat.pow 10 e.toNat ≤ d.units
  else Nat.pow 2 1074 ≤ d.units * Nat.pow 10 (-e).toNat

/-- The exponent of the leading decimal digit, found from the binary one and mended by one. -/
def leadingExponent (d : Double) : Int :=
  let guess := (((d.units.log2 : Int) - 1074) * 30103) / 100000
  if reaches d (guess + 1) then guess + 1
  else if reaches d guess then guess
  else guess - 1

def search (i : Interval) (k : Int) : Nat → Nat × Int
  | 0 => (0, 0)
  | fuel + 1 =>
    match onGrid? i k with
    | some c => (c, k)
    | none => search i (k - 1) fuel

/-- Drops trailing zeros of a count of `10 ^ k`. -/
def trimZeros (k : Int) : Nat → Nat → Nat × Int
  | 0, digits => (digits, k)
  | fuel + 1, digits =>
    if digits ≠ 0 ∧ digits % 10 = 0 then trimZeros (k + 1) fuel (digits / 10) else (digits, k)

/-- Digits and the power of ten of the last one; seventeen digits always suffice. -/
def digits (d : Double) : Nat × Int :=
  if d.isZero then (0, 0)
  else
    let (c, k) := search (interval d) (leadingExponent d) 18
    trimZeros k 20 c

end Assay.Shortest
