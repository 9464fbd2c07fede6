/- digest: The shortest digits of a number are rounded to the number: one of the grids that are
   searched has a point in the number's interval, and dropping zeros does not move it. -/

import Assay.Number.Decimal
import Assay.Proofs.Number.Nearest

set_option autoImplicit false
set_option relaxedAutoImplicit false

namespace Assay

namespace Shortest

variable {d : Double} {i : Interval} {scale step c : Nat} {k : Int}

/-- The decimal `c * 10 ^ k` lies in the interval of a number. -/
def Spells (d : Double) (c : Nat) (k : Int) : Prop :=
  (interval d).holds (10 ^ (-k).toNat) (4 * (c * 10 ^ k.toNat * Nat.pow 2 1074)) = true

private theorem spells_mul_ten : Spells d (c * 10) k ↔ Spells d c (k + 1) := by
  unfold Spells
  generalize Nat.pow 2 1074 = unit
  -- Below the point the zero is taken off the scale, above it the power of ten grows.
  rcases lt_or_ge k 0 with negative | positive
  · have places : (-k).toNat = (-(k + 1)).toNat + 1 := by omega
    have none : k.toNat = 0 ∧ (k + 1).toNat = 0 := by omega
    have point : 4 * (c * 10 * 10 ^ 0 * unit) = 4 * (c * 10 ^ 0 * unit) * 10 := by ring
    rw [places, none.1, none.2, Nat.pow_succ, point, holds_mul (by omega)]
  · have none : (-k).toNat = 0 ∧ (-(k + 1)).toNat = 0 := by omega
    have places : (k + 1).toNat = k.toNat + 1 := by omega
    have point : c * 10 * 10 ^ k.toNat = c * 10 ^ (k.toNat + 1) := by ring
    rw [none.1, none.2, places, point]

theorem spells_mul_pow (n : Nat) : Spells d (c * 10 ^ n) k ↔ Spells d c (k + n) := by
  induction n generalizing k with
  | zero => simp
  | succ n ih =>
    have last : c * 10 ^ (n + 1) = c * 10 ^ n * 10 := by ring
    have places : k + 1 + (n : Int) = k + (n + 1 : Nat) := by omega
    rw [last, spells_mul_ten, ih, places]

private theorem spells_trimZeros (fuel : Nat) (h : Spells d c k) :
    Spells d (trimZeros k fuel c).1 (trimZeros k fuel c).2 := by
  induction fuel generalizing c k with
  | zero => exact h
  | succ fuel ih =>
    rw [trimZeros]
    split
    · rename_i last
      have whole : c / 10 * 10 = c := by omega
      exact ih (spells_mul_ten.mp (whole.symm ▸ h))
    · exact h

private theorem holds_of_candidate? (h : i.candidate? scale step = some c) :
    i.holds scale (c * step) = true := by
  simp only [Interval.candidate?] at h
  split at h
  · cases h
  · cases h
    assumption
  · cases h
    assumption
  · rename_i below above
    split at h
    · cases h
      exact below
    · split at h
      · cases h
        exact above
      · cases h
        rcases Nat.mod_two_eq_zero_or_one (i.centre * scale / step) with even | odd
        · rw [even]
          exact below
        · rw [odd]
          exact above

private theorem isSome_candidate? (hstep : 0 < step) (low : i.low * scale + step ≤ i.centre * scale)
    (high : i.centre * scale < i.high * scale) : (i.candidate? scale step).isSome = true := by
  have parts := Nat.div_add_mod' (i.centre * scale) step
  have rest := Nat.mod_lt (i.centre * scale) hstep
  have inside : i.holds scale (i.centre * scale / step * step) = true := by
    unfold Interval.holds
    split
    · simp only [Bool.and_eq_true, decide_eq_true_eq]
      omega
    · simp only [Bool.and_eq_true, decide_eq_true_eq]
      omega
  simp only [Interval.candidate?, inside]
  split
  · simp_all
  · rfl
  · rfl
  · split
    · rfl
    · split <;> rfl

private theorem onGrid?_eq (i : Interval) (k : Int) : onGrid? i k =
    i.candidate? (10 ^ (-k).toNat) (4 * Nat.pow 2 1074 * 10 ^ k.toNat) := by
  unfold onGrid?
  -- The unit has a name, so that it is never evaluated.
  generalize Nat.pow 2 1074 = unit
  split
  · have none : (-k).toNat = 0 := by omega
    simp only [none, Nat.pow_zero, Nat.pow_eq]
  · have none : k.toNat = 0 := by omega
    simp only [none, Nat.pow_zero, Nat.mul_one, Nat.pow_eq]

private theorem spells_of_onGrid? (h : onGrid? (interval d) k = some c) : Spells d c k := by
  rw [onGrid?_eq] at h
  have inside := holds_of_candidate? h
  unfold Spells
  generalize Nat.pow 2 1074 = unit at inside ⊢
  have point : c * (4 * unit * 10 ^ k.toNat) = 4 * (c * 10 ^ k.toNat * unit) := by ring
  rwa [point] at inside

private theorem spells_search {fuel j : Nat} (h : j < fuel)
    (found : (onGrid? (interval d) (k - j)).isSome = true) :
    Spells d (search (interval d) k fuel).1 (search (interval d) k fuel).2 := by
  induction fuel generalizing k j with
  | zero => omega
  | succ fuel ih =>
    rw [search]
    split
    · rename_i c hc
      exact spells_of_onGrid? hc
    · rename_i hnone
      cases j with
      | zero => simp [hnone] at found
      | succ j =>
        refine ih (j := j) (by omega) ?_
        rwa [show k - 1 - (j : Int) = k - (j + 1 : Nat) by omega]

private theorem reaches_iff {e : Int} : reaches d e = true ↔
    Nat.pow 2 1074 * 10 ^ e.toNat ≤ d.units * 10 ^ (-e).toNat := by
  unfold reaches
  generalize Nat.pow 2 1074 = unit
  split
  · have none : (-e).toNat = 0 := by omega
    simp only [none, Nat.pow_zero, Nat.mul_one, Nat.pow_eq, decide_eq_true_eq]
  · have none : e.toNat = 0 := by omega
    simp only [none, Nat.pow_zero, Nat.mul_one, Nat.pow_eq, decide_eq_true_eq]

private def guess (log : Nat) : Int := (((log : Int) - 1074) * 30103) / 100000

private theorem guess_le {log : Nat} (h : log < 2098) :
    Nat.pow 2 1074 * 10 ^ (guess log - 1).toNat ≤ 2 ^ log * 10 ^ (-(guess log - 1)).toNat := by
  have table : ((List.range 2098).all fun log => decide (Nat.pow 2 1074 * 10 ^ (guess log - 1).toNat ≤
      2 ^ log * 10 ^ (-(guess log - 1)).toNat)) = true := by decide +kernel
  exact of_decide_eq_true (List.all_eq_true.mp table log (List.mem_range.mpr h))

private theorem log2_units_lt (h : d.units ≠ 0) : d.units.log2 < 2098 := by
  have shift := Double.shift_lt d
  have size : d.units < 2 ^ (53 + d.shift) := by
    rw [Double.units, Nat.pow_eq, Nat.pow_add]
    exact Nat.mul_lt_mul_of_pos_right (Double.significand_lt d) (Nat.two_pow_pos _)
  have log := (Nat.log2_lt h).mpr size
  omega

private theorem units_ne_zero (h : d.magnitude ≠ 0) : d.units ≠ 0 := by
  have significand := Double.significand_pos h
  rw [Double.units]
  exact Nat.mul_ne_zero (by omega) (Nat.two_pow_pos _).ne'

private theorem reaches_leadingExponent (h : d.magnitude ≠ 0) :
    reaches d (leadingExponent d) = true := by
  have least : reaches d (guess d.units.log2 - 1) = true := by
    rw [reaches_iff]
    have large := units_ne_zero h
    exact (guess_le (log2_units_lt large)).trans (Nat.mul_le_mul_right _ (Nat.log2_self_le large))
  unfold leadingExponent
  dsimp only
  split
  · assumption
  · split
    · assumption
    · exact least

private theorem step_le {e : Int} (reached : reaches d e = true) :
    4 * Nat.pow 2 1074 * 10 ^ (e - (17 : Nat)).toNat ≤
      2 ^ d.shift * 10 ^ (-(e - (17 : Nat))).toNat := by
  rw [reaches_iff, Double.units] at reached
  change _ ≤ d.significand * 2 ^ d.shift * _ at reached
  generalize Nat.pow 2 1074 = unit at reached ⊢
  have significand := Double.significand_lt d
  have places : 10 ^ (e - (17 : Nat)).toNat * (10 ^ 17 * 10 ^ (-e).toNat) =
      10 ^ e.toNat * 10 ^ (-(e - (17 : Nat))).toNat := by
    rw [← Nat.pow_add, ← Nat.pow_add, ← Nat.pow_add]
    congr 1
    omega
  refine Nat.le_of_mul_le_mul_right (c := 10 ^ 17 * 10 ^ (-e).toNat) ?_ (by positivity)
  generalize 10 ^ (-(e - (17 : Nat))).toNat = scale at places ⊢
  generalize 10 ^ (-e).toNat = below at places reached ⊢
  calc 4 * unit * 10 ^ (e - (17 : Nat)).toNat * (10 ^ 17 * below)
      = 4 * (unit * 10 ^ e.toNat) * scale := by rw [Nat.mul_assoc, places]; ring
    _ ≤ 4 * (d.significand * 2 ^ d.shift * below) * scale := by gcongr
    _ = 4 * d.significand * (2 ^ d.shift * scale * below) := by ring
    _ ≤ 10 ^ 17 * (2 ^ d.shift * scale * below) := Nat.mul_le_mul_right _ (by omega)
    _ = 2 ^ d.shift * scale * (10 ^ 17 * below) := by ring

private theorem isSome_onGrid? {e : Int} (h : d.magnitude ≠ 0) (reached : reaches d e = true) :
    (onGrid? (interval d) (e - (17 : Nat))).isSome = true := by
  have fine := step_le reached
  have significand := Double.significand_pos h
  rw [onGrid?_eq]
  generalize 1074 = places at fine ⊢
  have positive : 0 < Nat.pow 2 places := Nat.two_pow_pos places
  generalize Nat.pow 2 places = unit at fine positive ⊢
  generalize (e - (17 : Nat)) = k at fine ⊢
  have width : 0 < 2 ^ d.shift * 10 ^ (-k).toNat := by positivity
  have gap : lowGap d * (2 ^ d.shift * 10 ^ (-k).toNat) ≤
      4 * d.significand * (2 ^ d.shift * 10 ^ (-k).toNat) := by
    have least := lowGap_le d
    exact Nat.mul_le_mul_right _ (by omega)
  have near : 1 * (2 ^ d.shift * 10 ^ (-k).toNat) ≤ lowGap d * (2 ^ d.shift * 10 ^ (-k).toNat) :=
    Nat.mul_le_mul_right _ (lowGap_pos d)
  refine isSome_candidate? (by positivity) ?_ ?_
  · simp only [interval_eq, Nat.mul_assoc, Nat.sub_mul] at gap fine ⊢
    omega
  · simp only [interval_eq, Nat.mul_assoc, Nat.add_mul] at width ⊢
    omega

theorem spells_digits (h : d.magnitude ≠ 0) : Spells d (digits d).1 (digits d).2 := by
  have nonzero : d.isZero = false := by simpa [Double.isZero] using h
  have tried : 17 < 18 := by omega
  have found := spells_search tried (isSome_onGrid? h (reaches_leadingExponent h))
  rw [digits, nonzero, if_neg Bool.false_ne_true]
  generalize search (interval d) (leadingExponent d) 18 = decimal at found ⊢
  obtain ⟨c, k⟩ := decimal
  exact spells_trimZeros 20 found

end Shortest

end Assay
