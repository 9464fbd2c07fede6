/- digest: Decimal notation of finite numbers: the text form with optional sign, fraction and
   exponent, read exactly and rounded once. -/

import Assay.Number.Double
import Assay.Text.Letter

set_option autoImplicit false
set_option relaxedAutoImplicit false

namespace Assay.Decimal

/-- A decimal as written: a sign, digits, and the power of ten of the last digit. -/
structure Numeral where
  negative : Bool
  digits : Nat
  exponent : Int

def spanDigits (cs : List Char) : List Char × List Char :=
  (cs.takeWhile Text.isDigit, cs.dropWhile Text.isDigit)

/-- A sign and digits, to the end. -/
def exponent? : List Char → Option Int
  | '+' :: ds => unsigned? ds
  | '-' :: ds => (unsigned? ds).map (- ·)
  | ds => unsigned? ds
where
  unsigned? (ds : List Char) : Option Int :=
    if ds ≠ [] ∧ ds.all Text.isDigit then some (Text.digitsValue ds : Int) else none

/-- What follows the digits: nothing or an exponent. -/
def tail? : List Char → Option Int
  | [] => some 0
  | 'e' :: r => exponent? r
  | 'E' :: r => exponent? r
  | _ => none

/-- Digits, at least one of them before or after an optional point, then an optional exponent. -/
def unsigned? (negative : Bool) (cs : List Char) : Option Numeral :=
  let (whole, rest) := spanDigits cs
  let (fraction, rest) := match rest with
    | '.' :: r => spanDigits r
    | r => ([], r)
  if whole = [] ∧ fraction = [] then none
  else (tail? rest).map fun e =>
    ⟨negative, Text.digitsValue (whole ++ fraction), e - fraction.length⟩

def numeral? : List Char → Option Numeral
  | '+' :: r => unsigned? false r
  | '-' :: r => unsigned? true r
  | r => unsigned? false r

/-- The finite number nearest to a decimal; none beyond the largest. Exponents far outside the range
need no arithmetic. -/
def Numeral.nearest? (n : Numeral) : Option Double :=
  if n.digits = 0 then Double.ofMagnitude n.negative 0
  else if 400 < n.exponent then none
  else if n.exponent < -(400 + n.digits.log2 : Int) then Double.ofMagnitude n.negative 0
  else if 0 ≤ n.exponent then Double.ofQuotient n.negative (n.digits * Nat.pow 10 n.exponent.toNat) 1
  else Double.ofQuotient n.negative n.digits (Nat.pow 10 (-n.exponent).toNat)

/-- The finite number that a text spells, if it spells one. -/
def read? (s : String) : Option Double :=
  (numeral? s.toList).bind (·.nearest?)

end Assay.Decimal
