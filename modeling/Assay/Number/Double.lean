/- digest: Finite 64-bit floating-point numbers as signed ranks, their exact values and order, and
   rounding of exact quotients to the nearest one. -/

set_option autoImplicit false
set_option relaxedAutoImplicit false

namespace Assay

/-- A finite number with a 53-bit significand. Its magnitude counts the representable numbers from
zero upwards, so that magnitudes are ordered as the values are. -/
structure Double where
  negative : Bool
  magnitude : Nat
  finite : magnitude < 2047 * Nat.pow 2 52
  deriving DecidableEq

namespace Double

def zero : Double := ⟨false, 0, by decide⟩

instance : Inhabited Double := ⟨zero⟩

/-- A magnitude with a sign, if it is below infinity. -/
def ofMagnitude (negative : Bool) (magnitude : Nat) : Option Double :=
  if h : magnitude < 2047 * Nat.pow 2 52 then some ⟨negative, magnitude, h⟩ else none

/-- The place of a number in the order of all numbers; both zeros have place zero. -/
def rank (d : Double) : Int :=
  if d.negative then -(d.magnitude : Int) else d.magnitude

/-- Numeric equality: the two zeros are equal. -/
def same (a b : Double) : Bool := a.rank == b.rank

def less (a b : Double) : Bool := a.rank < b.rank

def atMost (a b : Double) : Bool := a.rank ≤ b.rank

/-- The value is the significand times two to this power, in units of the least positive number. -/
def shift (d : Double) : Nat := d.magnitude / Nat.pow 2 52 - 1

/-- The significand, with the leading bit where the number is not subnormal. -/
def significand (d : Double) : Nat := d.magnitude - d.shift * Nat.pow 2 52

/-- The exact absolute value in units of the least positive number `2 ^ -1074`. -/
def units (d : Double) : Nat := d.significand * Nat.pow 2 d.shift

def isZero (d : Double) : Bool := d.magnitude == 0

def negate (d : Double) : Double := { d with negative := !d.negative }

def signedZero (negative : Bool) : Double := if negative then zero.negate else zero

/-- The quotient as a whole number, to the nearest one and from a tie to the even one. -/
def roundHalfEven (num den : Nat) : Nat :=
  let q := num / den
  let r := num % den
  if 2 * r < den then q
  else if den < 2 * r then q + 1
  else q + q % 2

def nearestMagnitude (num den : Nat) : Nat :=
  let shift := (num / den).log2 - 52
  shift * Nat.pow 2 52 + roundHalfEven num (den * Nat.pow 2 shift)

/-- The number nearest to a quotient of units; none if that is infinity. -/
def ofUnits (negative : Bool) (num den : Nat) : Option Double :=
  ofMagnitude negative (nearestMagnitude num den)

/-- The number nearest to a quotient; none if that is infinity. -/
def ofQuotient (negative : Bool) (num den : Nat) : Option Double :=
  ofUnits negative (num * Nat.pow 2 1074) den

/-- The number nearest to a whole number; none if that is infinity. -/
def ofInt? (i : Int) : Option Double :=
  ofQuotient (i < 0) i.natAbs 1

/-- The product, rounded once. -/
def mul? (a b : Double) : Option Double :=
  ofUnits (a.negative != b.negative) (a.units * b.units) (Nat.pow 2 1074)

/-- The quotient by a number that is not zero, rounded once. -/
def div? (a b : Double) : Option Double :=
  ofQuotient (a.negative != b.negative) a.units b.units

/-- The whole number nearest to the absolute value; a half goes away from zero. -/
def roundAway (d : Double) : Nat :=
  (2 * d.units + Nat.pow 2 1074) / (2 * Nat.pow 2 1074)

end Double

end Assay
