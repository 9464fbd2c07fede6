/- digest: Whole numbers that fit into a significand are kept exactly, and the digits of a number
   read back as the number. -/

import Mathlib.Algebra.Group.Nat.Defs
import Assay.Selector.Walk

set_option autoImplicit false
set_option relaxedAutoImplicit false

namespace Assay

namespace Double

theorem roundHalfEven_mul (n den : Nat) (h : 0 < den) : roundHalfEven (n * den) den = n := by
  simp [roundHalfEven, Nat.mul_div_cancel n h, h]

theorem log2_mul_two_pow {n : Nat} (hn : n ≠ 0) (e : Nat) : (n * 2 ^ e).log2 = n.log2 + e := by
  have large : n * 2 ^ e ≠ 0 :=
    Nat.mul_ne_zero hn (Nat.pos_iff_ne_zero.mp (Nat.two_pow_pos e))
  refine (Nat.log2_eq_iff large).mpr ⟨?_, ?_⟩
  · rw [Nat.pow_add]
    exact Nat.mul_le_mul_right _ (Nat.log2_self_le hn)
  · rw [show n.log2 + e + 1 = n.log2 + 1 + e by omega, Nat.pow_add _ (n.log2 + 1)]
    exact Nat.mul_lt_mul_of_pos_right Nat.lt_log2_self (Nat.two_pow_pos e)

private theorem nearestMagnitude_mul_pow {n e : Nat} (hn : n ≠ 0) (hsize : n < 2 ^ 53)
    (he : 52 ≤ e) :
    nearestMagnitude (n * Nat.pow 2 e) 1 =
      (n.log2 + e - 52) * Nat.pow 2 52 + n * 2 ^ (52 - n.log2) := by
  have hlog : n.log2 < 53 := (Nat.log2_lt hn).mpr hsize
  have parts : n * 2 ^ e = n * 2 ^ (52 - n.log2) * 2 ^ (n.log2 + e - 52) := by
    rw [Nat.mul_assoc, ← Nat.pow_add]
    congr 2
    omega
  simp only [nearestMagnitude, Nat.pow_eq, Nat.div_one, Nat.one_mul, log2_mul_two_pow hn]
  rw [parts, roundHalfEven_mul _ _ (Nat.two_pow_pos _)]

/-- A magnitude with its leading bit in place, as a significand and a power. -/
theorem units_of_magnitude {d : Double} {k s : Nat} (h : d.magnitude = k * Nat.pow 2 52 + s)
    (hs : 2 ^ 52 ≤ s) (hs' : s < 2 ^ 53) : d.units = s * 2 ^ k := by
  have hshift : d.shift = k := by
    simp only [shift, h, Nat.pow_eq]
    omega
  have hsignificand : d.significand = s := by
    simp only [significand, hshift, h, Nat.pow_eq]
    omega
  rw [units, hsignificand, hshift, Nat.pow_eq]

private theorem significand_bounds {n : Nat} (hn : n ≠ 0) (h : n < 2 ^ 53) :
    2 ^ 52 ≤ n * 2 ^ (52 - n.log2) ∧ n * 2 ^ (52 - n.log2) < 2 ^ 53 := by
  have hlog : n.log2 < 53 := (Nat.log2_lt hn).mpr h
  have below : n.log2 + (52 - n.log2) = 52 := by omega
  have above : n.log2 + 1 + (52 - n.log2) = 53 := by omega
  constructor
  · calc 2 ^ 52 = 2 ^ n.log2 * 2 ^ (52 - n.log2) := by rw [← Nat.pow_add, below]
      _ ≤ n * 2 ^ (52 - n.log2) := Nat.mul_le_mul_right _ (Nat.log2_self_le hn)
  · calc n * 2 ^ (52 - n.log2) < 2 ^ (n.log2 + 1) * 2 ^ (52 - n.log2) :=
          Nat.mul_lt_mul_of_pos_right Nat.lt_log2_self (Nat.two_pow_pos _)
      _ = 2 ^ 53 := by rw [← Nat.pow_add, above]

private theorem ofInt?_natCast {n m e : Nat} (he : 1074 = e)
    (hm : nearestMagnitude (n * Nat.pow 2 e) 1 = m) (hfinite : m < 2047 * Nat.pow 2 52) :
    ofInt? n = some ⟨false, m, hfinite⟩ := by
  have positive : decide ((n : Int) < 0) = false := by
    rw [decide_eq_false_iff_not]
    omega
  rw [ofInt?, ofQuotient, ofUnits, Int.natAbs_natCast, he, hm, ofMagnitude, dif_pos hfinite, positive]

private theorem ofInt?_of_lt {n : Nat} (h : n < 2 ^ 53) :
    ∃ d, ofInt? n = some d ∧ d.negative = false ∧ d.units = n * Nat.pow 2 1074 := by
  -- The exponent has a name, so that the power is never evaluated.
  generalize he : 1074 = e
  by_cases hn : n = 0
  · subst hn
    have nothing : nearestMagnitude (0 * Nat.pow 2 e) 1 = 0 := by
      rw [Nat.zero_mul]
      decide
    refine ⟨_, ofInt?_natCast he nothing (by decide), rfl, ?_⟩
    rw [Nat.zero_mul]
    decide
  · have hlog : n.log2 < 53 := (Nat.log2_lt hn).mpr h
    obtain ⟨low, high⟩ := significand_bounds hn h
    have magnitude := nearestMagnitude_mul_pow hn h (e := e) (by omega)
    have finite : (n.log2 + e - 52) * Nat.pow 2 52 + n * 2 ^ (52 - n.log2) <
        2047 * Nat.pow 2 52 := by
      simp only [Nat.pow_eq]
      omega
    refine ⟨_, ofInt?_natCast he magnitude finite, rfl, ?_⟩
    have exponents : 52 - n.log2 + (n.log2 + e - 52) = e := by omega
    rw [units_of_magnitude rfl low high, Nat.mul_assoc, ← Nat.pow_add, exponents, Nat.pow_eq]

end Double

namespace Text

private theorem toNat_of_isDigit {c : Char} (h : isDigit c = true) :
    48 ≤ c.toNat ∧ c.toNat ≤ 57 := by
  simp only [isDigit, Bool.and_eq_true, decide_eq_true_eq, Char.le_def, UInt32.le_iff_toNat_le] at h
  exact h

theorem isNameChar_of_isDigit {c : Char} (h : isDigit c = true) : isNameChar c = true := by
  have small : c.toNat < 128 := by
    have := toNat_of_isDigit h
    omega
  simp [isNameChar, isAlphanumeric, small, isPlainAlphanumeric, h]

theorem isDigit_of_mem_toDigits {n : Nat} {c : Char} (h : c ∈ Nat.toDigits 10 n) :
    isDigit c = true := by
  have digit := Nat.isDigit_of_mem_toDigits (by omega) (by omega) h
  simpa [Char.isDigit, isDigit, Char.le_def] using digit

theorem digitsValue_toDigits (n : Nat) : digitsValue (Nat.toDigits 10 n) = n := by
  have value := Nat.ofDigitChars_toDigits (b := 10) (n := n) (by omega) (by omega)
  simpa only [digitsValue, Nat.ofDigitChars_eq_foldl, Nat.mul_comm 10] using value

end Text

theorem Selector.Move.readInt?_toString {n : Nat} (h : n < 2 ^ 63) :
    readInt? (toString n) = some n := by
  have digits : (toString n).toList = Nat.toDigits 10 n := by
    rw [Nat.toString_eq_ofList_toDigits, String.toList_ofList]
  have nonempty : Nat.toDigits 10 n ≠ [] := Nat.toDigits_ne_nil
  have all : (Nat.toDigits 10 n).all Text.isDigit = true :=
    List.all_eq_true.mpr fun c hc => Text.isDigit_of_mem_toDigits hc
  have value := Text.digitsValue_toDigits n
  unfold readInt?
  rw [digits]
  generalize Nat.toDigits 10 n = ds at nonempty all value
  split
  rename_i negative rest heq
  split at heq
  · simp [Text.isDigit] at all
  · simp [Text.isDigit] at all
  · cases heq
    have bound : n < Nat.pow 2 63 := h
    rw [if_pos ⟨nonempty, all⟩, value]
    exact if_pos bound

namespace Selector.Walk

theorem exists_position {n : Nat} (h : n < 2 ^ 53) :
    ∃ d, Double.ofInt? n = some d ∧ toPosition d = n := by
  obtain ⟨d, hd, hsign, hunits⟩ := Double.ofInt?_of_lt h
  refine ⟨d, hd, ?_⟩
  rw [toPosition, hsign, hunits]
  generalize 1074 = e
  have unit : 0 < Nat.pow 2 e := Nat.two_pow_pos e
  rw [Nat.mul_div_cancel n unit]
  rfl

end Selector.Walk

end Assay
