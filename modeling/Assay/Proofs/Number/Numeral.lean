/- digest: Digits at the front of a text are read as they stand, and whole numbers in digits are
   read as the numbers that they are rounded to. -/

import Mathlib.Data.List.TakeWhile
import Assay.Assertion.Compare
import Assay.Proofs.Number.Whole
import Assay.Proofs.Query.Place

set_option autoImplicit false
set_option relaxedAutoImplicit false

namespace Assay

theorem Text.isBlank_of_isDigit {c : Char} (h : isDigit c = true) : isBlank c = false :=
  isBlank_of_isNameChar (isNameChar_of_isDigit h)

namespace Decimal

variable {ds tail : List Char}

theorem spanDigits_append (hds : ∀ c ∈ ds, Text.isDigit c = true)
    (htail : ∀ c ∈ tail.head?, Text.isDigit c = false) : spanDigits (ds ++ tail) = (ds, tail) := by
  have stop : tail.takeWhile Text.isDigit = [] ∧ tail.dropWhile Text.isDigit = tail := by
    cases tail with
    | nil => exact ⟨rfl, rfl⟩
    | cons c rest =>
      have other : Text.isDigit c = false := htail c rfl
      simp [other]
  rw [spanDigits, List.takeWhile_append_of_pos hds, List.dropWhile_append_of_pos hds, stop.1, stop.2,
    List.append_nil]

theorem numeral?_of_isDigit {c : Char} {rest : List Char} (h : Text.isDigit c = true) :
    numeral? (c :: rest) = unsigned? false (c :: rest) := by
  unfold numeral?
  split
  · rename_i equal
    cases equal
    exact absurd h (by decide)
  · rename_i equal
    cases equal
    exact absurd h (by decide)
  · rfl

private theorem numeral?_of_digits (h : ∀ c ∈ ds, Text.isDigit c = true) (hne : ds ≠ [])
    (negative : Bool) :
    numeral? ((if negative then ['-'] else []) ++ ds) =
      some ⟨negative, Text.digitsValue ds, 0⟩ := by
  have whole : spanDigits ds = (ds, []) := by
    simpa using @spanDigits_append ds [] h (by simp)
  have unsigned (sign : Bool) : unsigned? sign ds = some ⟨sign, Text.digitsValue ds, 0⟩ := by
    simp [unsigned?, whole, hne, tail?]
  cases negative with
  | true => exact unsigned true
  | false =>
    obtain ⟨c, rest, rfl⟩ := List.exists_cons_of_ne_nil hne
    rw [if_neg Bool.false_ne_true, List.nil_append, numeral?_of_isDigit (h c List.mem_cons_self)]
    exact unsigned false

private theorem nearest?_of_whole (negative : Bool) {n : Nat} (h : n = 0 → negative = false) :
    Numeral.nearest? ⟨negative, n, 0⟩ = Double.ofQuotient negative n 1 := by
  rcases Nat.eq_zero_or_pos n with rfl | positive
  · rw [h rfl]
    decide +kernel
  · have scaled : n * Nat.pow 10 (Int.toNat 0) = n := Nat.mul_one n
    simp only [Numeral.nearest?, scaled]
    rw [if_neg (by omega), if_neg (by omega), if_neg (by omega), if_pos (by omega)]

end Decimal

private theorem toList_toString_int (i : Int) : (toString i).toList =
    (if decide (i < 0) then ['-'] else []) ++ Nat.toDigits 10 i.natAbs := by
  have digits (n : Nat) : n.repr.toList = Nat.toDigits 10 n := by
    rw [← Nat.toString_eq_repr, Nat.toString_eq_ofList_toDigits, String.toList_ofList]
  rw [Int.toString_eq_repr, Int.repr_eq_if]
  split
  · rw [digits, if_neg (by simpa using ‹0 ≤ i›), List.nil_append]
    congr 1
    omega
  · rw [String.toList_append, digits, if_pos (by simpa using ‹¬ 0 ≤ i›)]
    congr 2
    omega

theorem isDigit_or_sign_of_mem_toString {i : Int} {c : Char} (h : c ∈ (toString i).toList) :
    Text.isDigit c = true ∨ c = '-' := by
  rw [toList_toString_int] at h
  rcases List.mem_append.mp h with sign | digit
  · split at sign
    · exact .inr (List.mem_singleton.mp sign)
    · cases sign
  · exact .inl (Text.isDigit_of_mem_toDigits digit)

theorem trim_toString_int (i : Int) : Text.trim (toString i) = toString i := by
  rw [Text.trim, Text.trimChars_of_no_blank, String.ofList_toList]
  intro c hc
  rcases isDigit_or_sign_of_mem_toString hc with digit | rfl
  · exact Text.isBlank_of_isDigit digit
  · decide

theorem Decimal.numeral?_toString_int (i : Int) :
    numeral? (toString i).toList = some ⟨decide (i < 0), i.natAbs, 0⟩ := by
  rw [toList_toString_int, numeral?_of_digits (fun c hc => Text.isDigit_of_mem_toDigits hc)
    Nat.toDigits_ne_nil, Text.digitsValue_toDigits]

theorem Compare.number?_toString_int (i : Int) :
    number? (.string (toString i)) = Double.ofInt? i := by
  rw [number?, trim_toString_int, Decimal.read?, Decimal.numeral?_toString_int]
  exact Decimal.nearest?_of_whole _ fun zero => by simp [Int.natAbs_eq_zero.mp zero]

end Assay
