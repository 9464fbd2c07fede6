/- digest: The two written forms of finite numbers: in documents with an exponent for the very large
   and very small, in plain text never. -/

import Assay.Number.Shortest

set_option autoImplicit false
set_option relaxedAutoImplicit false

namespace Assay.Double

def zeros (n : Nat) : String := String.ofList (List.replicate n '0')

def signText (d : Double) : String := if d.negative then "-" else ""

/-- Digits with a point after the first `whole` of them; zeros fill up on both sides. -/
def positional (digits : String) (whole : Int) : String :=
  if whole ≤ 0 then "0." ++ zeros (-whole).toNat ++ digits
  else if (digits.length : Int) ≤ whole then digits ++ zeros (whole.toNat - digits.length)
  else String.ofList (digits.toList.take whole.toNat) ++ "." ++
    String.ofList (digits.toList.drop whole.toNat)

/-- One digit, a point before the others, and a signed exponent. -/
def scientific (digits : String) (exponent : Int) : String :=
  let lead := String.ofList (digits.toList.take 1)
  let others := String.ofList (digits.toList.drop 1)
  let sign := if exponent < 0 then "-" else "+"
  lead ++ (if others.isEmpty then "" else "." ++ others) ++ "e" ++ sign ++ toString exponent.natAbs

/-- The document form: positional from `0.00001` up to below `10 ^ 16`, with `.0` after whole
numbers, and scientific outside. -/
def render (d : Double) : String :=
  if d.isZero then d.signText ++ "0.0"
  else
    let (c, k) := Shortest.digits d
    let digits := toString c
    let whole := (digits.length : Int) + k
    let body :=
      if 0 ≤ k ∧ whole ≤ 16 then positional digits whole ++ ".0"
      else if -5 < whole ∧ whole ≤ 16 then positional digits whole
      else scientific digits (whole - 1)
    d.signText ++ body

/-- The plain form: always positional, whole numbers without a point. -/
def renderPlain (d : Double) : String :=
  if d.isZero then d.signText ++ "0"
  else
    let (c, k) := Shortest.digits d
    let digits := toString c
    d.signText ++ positional digits ((digits.length : Int) + k)

end Assay.Double
