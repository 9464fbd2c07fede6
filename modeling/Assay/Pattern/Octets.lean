/- digest: The octets that spell the codes of a range: a range falls into runs, in each of which
   every octet takes all values between two bounds whatever the others are. -/

import Assay.Text.Ranges

set_option autoImplicit false
set_option relaxedAutoImplicit false

namespace Assay.Pattern

open Text (CodeRanges)

abbrev OctetRange := Nat × Nat

/-- The octets of a code: one below 80, and more the larger it is. -/
def octetsOf (code : Nat) : List Nat :=
  let tail (n : Nat) := 0x80 + n % 64
  if code < 0x80 then [code]
  else if code < 0x800 then [0xc0 + code / 64, tail code]
  else if code < 0x10000 then [0xe0 + code / 4096, tail (code / 64), tail code]
  else [0xf0 + code / 262144, tail (code / 4096), tail (code / 64), tail code]

/-- The codes that are spelled with as many octets as each other. Surrogates are spelled with none.
-/
def zones : List (Nat × Nat) :=
  [(0, 0x7f), (0x80, 0x7ff), (0x800, 0xd7ff), (0xe000, 0xffff), (0x10000, 0x10ffff)]

/-- The codes of a set that can be spelled, as ranges within zones. -/
def spelledRanges (set : CodeRanges) : List (Nat × Nat) :=
  set.ranges.flatMap fun r => zones.filterMap fun z =>
    let a := max r.1 z.1
    let b := min r.2 z.2
    if a ≤ b then some (a, b) else none

/-- The sizes of the blocks of codes that share all octets but the last one, two and three. -/
def blockSizes : List Nat := [64, 4096, 262144]

/-- The pieces of a range of one zone, such that each is made up of whole blocks or lies in one. -/
def piecesOf (a b : Nat) : List Nat → List (Nat × Nat)
  | [] => [(a, b)]
  | size :: larger =>
    let whole := if a % size = 0 then a else (a / size + 1) * size
    let head := if a % size = 0 then [] else [(a, whole - 1)]
    if a / size = b / size then [(a, b)]
    else if whole / size = b / size then head ++ [(whole, b)]
    else if b % size = size - 1 then head ++ piecesOf whole b larger
    else head ++ piecesOf whole (b / size * size - 1) larger ++ [(b / size * size, b)]

/-- The runs of octets that spell the codes of a set, in ascending order. -/
def runsOf (set : CodeRanges) : List (List OctetRange) :=
  (spelledRanges set).flatMap fun r =>
    (piecesOf r.1 r.2 (if r.2 < 0x80 then [] else blockSizes)).map fun p =>
      (octetsOf p.1).zip (octetsOf p.2)

/-- The runs that begin with the same octets, each time with what follows these. -/
def groupRuns : List (List OctetRange) → List (OctetRange × List (List OctetRange))
  | [] => []
  | [] :: rest => groupRuns rest
  | (first :: tail) :: rest =>
    match groupRuns rest with
    | (next, tails) :: more =>
      if first = next then (first, tail :: tails) :: more
      else (first, [tail]) :: (next, tails) :: more
    | [] => [(first, [tail])]

end Assay.Pattern
