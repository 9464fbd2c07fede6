/- digest: Names of all scripts in plain letters: the plain characters first, then the others as
   differences in a number system whose digits weigh less and less. -/

import Assay.Text.Letter

set_option autoImplicit false
set_option relaxedAutoImplicit false

namespace Assay.Text.Punycode

def digitChar (d : Nat) : Char :=
  if d < 26 then Char.ofNat (97 + d) else Char.ofNat (22 + d)

def digitValue? (c : Char) : Option Nat :=
  if 'a' ≤ c ∧ c ≤ 'z' then some (c.toNat - 97)
  else if 'A' ≤ c ∧ c ≤ 'Z' then some (c.toNat - 65)
  else if isDigit c then some (c.toNat - 22)
  else none

/-- The value from which a digit at a place is not the last one. -/
def threshold (place bias : Nat) : Nat :=
  if place ≤ bias then 1 else if bias + 26 ≤ place then 26 else place - bias

private theorem threshold_pos (place bias : Nat) : 1 ≤ threshold place bias := by
  unfold threshold
  split
  · omega
  · split <;> omega

/-- Divides a difference until it is small. -/
def settle (delta place : Nat) : Nat × Nat :=
  if 455 < delta then settle (delta / 35) (place + 36) else (delta, place)
termination_by delta
decreasing_by exact Nat.div_lt_self (by omega) (by omega)

/-- The bias after a difference, when `count` characters have been placed. -/
def adapt (delta count : Nat) (first : Bool) : Nat :=
  let d := if first then delta / 700 else delta / 2
  let (d, place) := settle (d + d / count) 0
  place + 36 * d / (d + 38)

def digits (bias place q : Nat) : List Char :=
  let t := threshold place bias
  if q < t then [digitChar q]
  else digitChar (t + (q - t) % (36 - t)) :: digits bias (place + 36) ((q - t) / (36 - t))
termination_by q
decreasing_by
  have h := threshold_pos place bias
  calc (q - threshold place bias) / (36 - threshold place bias)
      ≤ q - threshold place bias := Nat.div_le_self _ _
    _ < q := by omega

/-- What has been written, the running difference, the bias, and the number of characters placed. -/
structure Writing where
  out : List Char
  delta : Nat
  bias : Nat
  placed : Nat

/-- Passes one character while those with the code `code` are placed. -/
def Writing.pass (basic code : Nat) (w : Writing) (c : Char) : Writing :=
  if c.toNat < code then { w with delta := w.delta + 1 }
  else if c.toNat = code then
    { out := w.out ++ digits w.bias 36 w.delta, delta := 0
      bias := adapt w.delta (w.placed + 1) (w.placed == basic), placed := w.placed + 1 }
  else w

/-- Places the characters with the given codes, in ascending order. -/
def writeCodes (name : List Char) (basic : Nat) : List Nat → Nat → Writing → Writing
  | [], _, w => w
  | code :: rest, next, w =>
    let w := { w with delta := w.delta + (code - next) * (w.placed + 1) }
    let w := name.foldl (Writing.pass basic code) w
    writeCodes name basic rest (code + 1) { w with delta := w.delta + 1 }

/-- Puts a code into an ascending list, once. -/
def insertCode (x : Nat) : List Nat → List Nat
  | [] => [x]
  | y :: rest => if x < y then x :: y :: rest else if x = y then y :: rest else y :: insertCode x rest

def encode (name : List Char) : List Char :=
  let plain := name.filter (·.toNat < 128)
  let codes := ((name.filter (128 ≤ ·.toNat)).map Char.toNat).foldr insertCode []
  let w := writeCodes name plain.length codes 128 ⟨[], 0, 72, plain.length⟩
  (if plain.isEmpty then [] else plain ++ ['-']) ++ w.out

/-- A difference at the front of a text, and the rest; `weight` is that of the next digit. -/
def readDelta (bias place weight sum : Nat) : List Char → Option (Nat × List Char)
  | [] => none
  | c :: rest =>
    match digitValue? c with
    | none => none
    | some d =>
      let t := threshold place bias
      let sum := sum + d * weight
      if d < t then some (sum, rest) else readDelta bias (place + 36) (weight * (36 - t)) sum rest

/-- Places characters by their differences; `code` is the running code, `at_` the running place. -/
def readCodes (out : List Char) (code at_ bias : Nat) (first : Bool) :
    Nat → List Char → Option (List Char)
  | _, [] => some out
  | 0, _ => none
  | fuel + 1, cs => do
    let (delta, rest) ← readDelta bias 36 1 0 cs
    let at_ := at_ + delta
    let count := out.length + 1
    let code := code + at_ / count
    let place := at_ % count
    if code ≤ 0x10ffff ∧ ¬(0xd800 ≤ code ∧ code ≤ 0xdfff) then
      readCodes (out.take place ++ Char.ofNat code :: out.drop place) code (place + 1)
        (adapt delta count first) false fuel rest
    else none

def decode? (text : List Char) : Option (List Char) :=
  let backwards := text.reverse
  let tail := (backwards.takeWhile (· ≠ '-')).reverse
  let plain := ((backwards.dropWhile (· ≠ '-')).drop 1).reverse
  if plain.any (128 ≤ ·.toNat) then none
  else readCodes plain 128 0 72 true (tail.length + 1) tail

end Assay.Text.Punycode
