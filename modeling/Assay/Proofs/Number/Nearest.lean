/- digest: Everything in the interval around a number is rounded to it: within half of the distance
   to its neighbours, and at the ends if the significand is even. -/

import Mathlib.Tactic.Ring
import Assay.Number.Shortest
import Assay.Proofs.Number.Order

set_option autoImplicit false
set_option relaxedAutoImplicit false

namespace Assay

namespace Double

variable {d : Double} {num den m : Nat}

private theorem magnitude_eq (d : Double) : d.magnitude = d.shift * 2 ^ 52 + d.significand := by
  simp only [significand, shift, Nat.pow_eq]
  omega

theorem significand_lt (d : Double) : d.significand < 2 ^ 53 := by
  simp only [significand, shift, Nat.pow_eq]
  omega

theorem shift_lt (d : Double) : d.shift < 2046 := by
  have finite := d.finite
  simp only [shift, Nat.pow_eq] at finite ⊢
  omega

private theorem le_significand (h : 0 < d.shift) : 2 ^ 52 ≤ d.significand := by
  simp only [significand, shift, Nat.pow_eq] at h ⊢
  omega

theorem significand_pos (h : d.magnitude ≠ 0) : 0 < d.significand := by
  simp only [significand, shift, Nat.pow_eq]
  omega

private theorem roundHalfEven_eq (low : 2 * (m * den) ≤ 2 * num + den)
    (high : 2 * num ≤ 2 * (m * den) + den)
    (odd : m % 2 = 1 → 2 * (m * den) < 2 * num + den ∧ 2 * num < 2 * (m * den) + den)
    (hden : 0 < den) : roundHalfEven num den = m := by
  have parts := Nat.div_add_mod' num den
  have rest := Nat.mod_lt num hden
  have less : num / den < m + 1 := by
    by_contra more
    have multiple := Nat.mul_le_mul_right den (Nat.le_of_not_lt more)
    rw [Nat.add_mul] at multiple
    omega
  have more : m < num / den + 2 := by
    by_contra less
    have multiple := Nat.mul_le_mul_right den (Nat.le_of_not_lt less)
    rw [Nat.add_mul] at multiple
    omega
  unfold roundHalfEven
  dsimp only
  rcases Nat.lt_or_ge (num / den) m with below | above
  · have next : num / den + 1 = m := by omega
    have multiple : m * den = num / den * den + den := by rw [← next, Nat.add_mul, Nat.one_mul]
    rw [if_neg (by omega)]
    split
    · exact next
    · omega
  · have same : num / den = m := by omega
    rw [same] at parts ⊢
    split
    · rfl
    · rw [if_neg (by omega)]
      omega

end Double

namespace Shortest

variable {d : Double} {i : Interval} {scale point num den : Nat}

/-- The distance from the lower end to the number, in quarter steps. -/
def lowGap (d : Double) : Nat :=
  if d.significand = Nat.pow 2 52 ∧ 0 < d.shift then 1 else 2

theorem interval_eq (d : Double) : interval d =
    ⟨(4 * d.significand - lowGap d) * 2 ^ d.shift, 4 * d.significand * 2 ^ d.shift,
      (4 * d.significand + 2) * 2 ^ d.shift, d.significand % 2 = 0⟩ := rfl

theorem lowGap_le (d : Double) : lowGap d ≤ 2 := by
  unfold lowGap
  split <;> omega

theorem lowGap_pos (d : Double) : 0 < lowGap d := by
  unfold lowGap
  split <;> omega

private theorem le_of_holds (h : i.holds scale point = true) :
    i.low * scale ≤ point ∧ point ≤ i.high * scale ∧
      (i.closed = false → i.low * scale < point ∧ point < i.high * scale) := by
  unfold Interval.holds at h
  split at h
  · simp_all
  · simp only [Bool.and_eq_true, decide_eq_true_eq] at h
    exact ⟨h.1.le, h.2.le, fun _ => h⟩

theorem holds_mul {t : Nat} (h : 0 < t) : i.holds (scale * t)
    (point * t) = i.holds scale point := by
  simp only [Interval.holds, ← Nat.mul_assoc, Nat.mul_le_mul_right_iff h, Nat.mul_lt_mul_right h]

end Shortest

namespace Double

open Shortest (interval lowGap)

variable {d : Double} {num den q s : Nat}

private theorem log2_sub_eq (high : q < 2 ^ (53 + s)) (low : s = 0 ∨ 2 ^ (52 + s) ≤ q) :
    q.log2 - 52 = s := by
  by_cases hq : q = 0
  · have power : 0 < 2 ^ (52 + s) := Nat.two_pow_pos _
    have least : s = 0 := by omega
    simp [hq, least]
  · have above := (Nat.log2_lt hq).mpr high
    rcases low with rfl | low
    · omega
    · have below := (Nat.le_log2 hq).mpr low
      omega

private theorem nearestMagnitude_of_log (h : (num / den).log2 - 52 = s) :
    nearestMagnitude num den = s * 2 ^ 52 + roundHalfEven num (den * 2 ^ s) := by
  simp only [nearestMagnitude, h, Nat.pow_eq]

/-- The interval's bounds without subtraction, in steps of the significand. -/
theorem bounds_of_holds (h : (interval d).holds den (4 * num) = true) :
    4 * (d.significand * (den * 2 ^ d.shift)) ≤ 4 * num + lowGap d * (den * 2 ^ d.shift) ∧
      4 * num ≤ 4 * (d.significand * (den * 2 ^ d.shift)) + 2 * (den * 2 ^ d.shift) ∧
      (d.significand % 2 = 1 →
        4 * (d.significand * (den * 2 ^ d.shift)) < 4 * num + lowGap d * (den * 2 ^ d.shift) ∧
        4 * num < 4 * (d.significand * (den * 2 ^ d.shift)) + 2 * (den * 2 ^ d.shift)) := by
  obtain ⟨low, high, inside⟩ := Shortest.le_of_holds h
  simp only [Shortest.interval_eq, Nat.mul_assoc, Nat.mul_comm (2 ^ d.shift) den, Nat.sub_mul,
    Nat.add_mul, decide_eq_false_iff_not] at low high inside
  exact ⟨by omega, by omega, fun odd => by have := inside (by omega); omega⟩

private theorem nearestMagnitude_of_scale {m : Nat} (hden : 0 < den) (hm : m < 2 ^ 53)
    (low : 2 * (m * (den * 2 ^ s)) ≤ 2 * num + den * 2 ^ s)
    (high : 2 * num ≤ 2 * (m * (den * 2 ^ s)) + den * 2 ^ s)
    (odd : m % 2 = 1 → 2 * (m * (den * 2 ^ s)) < 2 * num + den * 2 ^ s ∧
      2 * num < 2 * (m * (den * 2 ^ s)) + den * 2 ^ s)
    (scale : s = 0 ∨ 2 ^ (52 + s) ≤ num / den) : nearestMagnitude num den = s * 2 ^ 52 + m := by
  have step : 0 < den * 2 ^ s := Nat.mul_pos hden (Nat.two_pow_pos s)
  have below : num / den < 2 ^ (53 + s) := by
    have places : (m + 1) * (den * 2 ^ s) ≤ 2 ^ 53 * (den * 2 ^ s) := Nat.mul_le_mul_right _ hm
    have bound : 2 ^ 53 * (den * 2 ^ s) = 2 ^ (53 + s) * den := by
      rw [Nat.pow_add, Nat.mul_assoc, Nat.mul_comm den]
    rw [Nat.add_mul] at places
    rw [Nat.div_lt_iff_lt_mul hden]
    omega
  rw [nearestMagnitude_of_log (log2_sub_eq below scale), roundHalfEven_eq low high odd step]

private theorem nearestMagnitude_of_carry (hden : 0 < den)
    (low : 4 * (2 ^ 52 * (den * 2 ^ (s + 1))) ≤ 4 * num + den * 2 ^ (s + 1))
    (below : num / den < 2 ^ (52 + (s + 1))) :
    nearestMagnitude num den = (s + 1) * 2 ^ 52 + 2 ^ 52 := by
  have half : den * 2 ^ (s + 1) = 2 * (den * 2 ^ s) := by
    rw [Nat.pow_succ]
    ring
  have step : 0 < den * 2 ^ s := Nat.mul_pos hden (Nat.two_pow_pos s)
  have high : num < 2 ^ 53 * (den * 2 ^ s) := by
    have bound : 2 ^ (52 + (s + 1)) * den = 2 ^ 53 * (den * 2 ^ s) := by
      rw [show 52 + (s + 1) = 53 + s by omega, Nat.pow_add]
      ring
    rwa [Nat.div_lt_iff_lt_mul hden, bound] at below
  have above : 2 ^ (52 + s) ≤ num / den := by
    have bound : 2 ^ (52 + s) * den = 2 ^ 52 * (den * 2 ^ s) := by
      rw [Nat.pow_add]
      ring
    rw [Nat.le_div_iff_mul_le hden, bound]
    omega
  have rounded : roundHalfEven num (den * 2 ^ s) = 2 ^ 53 :=
    roundHalfEven_eq (by omega) (by omega) (by omega) step
  have log : (num / den).log2 - 52 = s :=
    log2_sub_eq (below.trans_eq (by congr 1; omega)) (.inr above)
  rw [nearestMagnitude_of_log log, rounded]
  omega

theorem nearestMagnitude_of_holds (hden : 0 < den) (h : (interval d).holds den (4 * num) = true) :
    nearestMagnitude num den = d.magnitude := by
  obtain ⟨low, high, odd⟩ := bounds_of_holds h
  have gap : lowGap d * (den * 2 ^ d.shift) ≤ 2 * (den * 2 ^ d.shift) :=
    Nat.mul_le_mul_right _ (Shortest.lowGap_le d)
  by_cases scale : d.shift = 0 ∨ 2 ^ (52 + d.shift) ≤ num / den
  · rw [nearestMagnitude_of_scale hden (significand_lt d) (by omega) (by omega)
      (fun h => by have := odd h; omega) scale, magnitude_eq]
  · -- The quotient is below the power of two that the scale begins with, so the significand is that power.
    rw [not_or, Nat.not_le] at scale
    obtain ⟨positive, below⟩ := scale
    have place := le_significand (Nat.pos_of_ne_zero positive)
    have less : num < 2 ^ 52 * (den * 2 ^ d.shift) := by
      rw [Nat.div_lt_iff_lt_mul hden, Nat.pow_add] at below
      calc num < 2 ^ 52 * 2 ^ d.shift * den := below
        _ = 2 ^ 52 * (den * 2 ^ d.shift) := by ring
    have least : d.significand = 2 ^ 52 := by
      by_contra more
      have next : (2 ^ 52 + 1) * (den * 2 ^ d.shift) ≤ d.significand * (den * 2 ^ d.shift) :=
        Nat.mul_le_mul_right _ (by omega)
      rw [Nat.add_mul] at next
      omega
    have near : lowGap d = 1 := if_pos ⟨least, Nat.pos_of_ne_zero positive⟩
    rw [magnitude_eq, least]
    rw [least, near, Nat.one_mul] at low
    obtain ⟨s, hs⟩ := Nat.exists_eq_succ_of_ne_zero positive
    rw [hs] at low below ⊢
    exact nearestMagnitude_of_carry hden low below

end Double

end Assay
