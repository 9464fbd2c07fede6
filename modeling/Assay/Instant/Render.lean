/- digest: The written form of instants at offset zero. -/

import Assay.Instant.Basic

set_option autoImplicit false
set_option relaxedAutoImplicit false

namespace Assay.Instant

def padded (width n : Nat) : String :=
  let digits := Nat.toDigits 10 n
  String.ofList (List.replicate (width - digits.length) '0' ++ digits)

/-- A year in four digits, with a sign where four do not suffice. -/
def yearText (year : Int) : String :=
  if 0 ≤ year ∧ year ≤ 9999 then padded 4 year.toNat
  else (if year < 0 then "-" else "+") ++ padded 4 year.natAbs

/-- The fraction of a second in three, six or nine digits, as few as show it all. -/
def fractionText (nanos : Nat) : String :=
  if nanos = 0 then ""
  else if nanos % 1000000 = 0 then "." ++ padded 3 (nanos / 1000000)
  else if nanos % 1000 = 0 then "." ++ padded 6 (nanos / 1000)
  else "." ++ padded 9 nanos

/-- Date, time and the offset zero. -/
def render (i : Instant) : String :=
  let d := i.date
  let c := i.clock
  let leap := if 1000000000 ≤ c.nanos then 1 else 0
  yearText d.year ++ "-" ++ padded 2 d.month ++ "-" ++ padded 2 d.day ++ "T" ++
    padded 2 c.hour ++ ":" ++ padded 2 c.minute ++ ":" ++ padded 2 (c.second + leap) ++
    fractionText (c.nanos % 1000000000) ++ "+00:00"

end Assay.Instant
