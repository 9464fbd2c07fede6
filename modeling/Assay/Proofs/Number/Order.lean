/- digest: Rounding to the nearest number keeps the order of whole numbers. It may put two of them
   together, but not if one fits into a significand, and not if they lie further apart than the
   numbers of 64 bits do. -/

import Mathlib.Data.Nat.Log
import Mathlib.Tactic.Positivity
import Assay.Proofs.Number.Whole

set_option autoImplicit false
set_option relaxedAutoImplicit false

namespace Assay.Double

private theorem roundHalfEven_cases (num den : Nat) :
    (roundHalfEven num den = num / den ∧ 2 * (num % den) ≤ den) ∨
      (roundHalfEven num den = num / den + 1 ∧ den ≤ 2 * (num % den)) := by
  unfold roundHalfEven
  dsimp only
  split
  · exact .inl ⟨rfl, by omega⟩
  · split
    · exact .inr ⟨rfl, by omega⟩
    · rcases Nat.mod_two_eq_zero_or_one (num / den) with even | odd
      · exact .inl ⟨by omega, by omega⟩
      · exact .inr ⟨by omega, by omega⟩

private theorem roundHalfEven_near (num : Nat) {den : Nat} (h : 0 < den) :
    2 * (roundHalfEven num den * den) ≤ 2 * num + den ∧
      2 * num ≤ 2 * (roundHalfEven num den * den) + den := by
  have parts := Nat.div_add_mod' num den
  have rest := Nat.mod_lt num h
  rcases roundHalfEven_cases num den with ⟨equal, small⟩ | ⟨equal, large⟩
  · rw [equal]
    omega
  · rw [equal, Nat.add_mul, Nat.one_mul]
    omega

private theorem roundHalfEven_mono {m n : Nat} (den : Nat) (h : m ≤ n) :
    roundHalfEven m den ≤ roundHalfEven n den := by
  rcases Nat.lt_or_ge (m / den) (n / den) with apart | close
  · have low := roundHalfEven_cases m den
    have high := roundHalfEven_cases n den
    omega
  · have same : m / den = n / den := Nat.le_antisymm (Nat.div_le_div_right h) close
    have rest : m % den ≤ n % den := by
      have first := Nat.div_add_mod m den
      have second := Nat.div_add_mod n den
      rw [same] at first
      omega
    unfold roundHalfEven
    dsimp only
    rw [same]
    rcases Nat.lt_trichotomy (2 * (m % den)) den with less | half | more
    · rw [if_pos less]
      split
      · exact Nat.le_refl _
      · split <;> omega
    · rw [if_neg (by omega), if_neg (by omega), if_neg (by omega)]
      split <;> omega
    · rw [if_neg (by omega), if_pos more, if_neg (by omega), if_pos (by omega)]

private theorem nearestMagnitude_eq (num : Nat) : nearestMagnitude num 1 =
    (num.log2 - 52) * 2 ^ 52 + roundHalfEven num (2 ^ (num.log2 - 52)) := by
  simp only [nearestMagnitude, Nat.div_one, Nat.one_mul, Nat.pow_eq]

private theorem roundHalfEven_le (num : Nat) :
    roundHalfEven num (2 ^ (num.log2 - 52)) ≤ 2 ^ 53 := by
  have below : num ≤ 2 ^ 53 * 2 ^ (num.log2 - 52) := by
    rw [← Nat.pow_add]
    exact Nat.lt_log2_self.le.trans (Nat.pow_le_pow_right (by omega) (by omega))
  have rounded := roundHalfEven_mono (2 ^ (num.log2 - 52)) below
  rwa [roundHalfEven_mul _ _ (Nat.two_pow_pos _)] at rounded

private theorem le_roundHalfEven (num : Nat) (h : 52 ≤ num.log2) :
    2 ^ 52 ≤ roundHalfEven num (2 ^ (num.log2 - 52)) := by
  have large : num ≠ 0 := by
    rintro rfl
    simp at h
  have above : 2 ^ 52 * 2 ^ (num.log2 - 52) ≤ num := by
    rw [← Nat.pow_add, Nat.add_sub_cancel' h]
    exact Nat.log2_self_le large
  have rounded := roundHalfEven_mono (2 ^ (num.log2 - 52)) above
  rwa [roundHalfEven_mul _ _ (Nat.two_pow_pos _)] at rounded

private theorem nearestMagnitude_mono {m n : Nat} (h : m ≤ n) :
    nearestMagnitude m 1 ≤ nearestMagnitude n 1 := by
  rw [nearestMagnitude_eq, nearestMagnitude_eq]
  have logs : m.log2 ≤ n.log2 := by
    rw [Nat.log2_eq_log_two, Nat.log2_eq_log_two]
    exact Nat.log_mono_right h
  rcases Nat.lt_or_ge (m.log2 - 52) (n.log2 - 52) with apart | close
  · -- The significand of the smaller one is at most twice the least of the larger one.
    have low := roundHalfEven_le m
    have high := le_roundHalfEven n (by omega)
    omega
  · have same : m.log2 - 52 = n.log2 - 52 := by omega
    rw [same]
    exact Nat.add_le_add_left (roundHalfEven_mono _ h) _

private theorem units_of_rounded {d : Double} {k s : Nat} (h : d.magnitude = k * 2 ^ 52 + s)
    (hs : 2 ^ 52 ≤ s) (hs' : s ≤ 2 ^ 53) : d.units = s * 2 ^ k := by
  rcases Nat.lt_or_ge s (2 ^ 53) with below | above
  · exact units_of_magnitude h hs below
  · obtain rfl : s = 2 ^ 53 := Nat.le_antisymm hs' above
    rw [units_of_magnitude (k := k + 1) (s := 2 ^ 52) (by rw [h, Nat.pow_eq]; omega) (Nat.le_refl _)
      (by omega), ← Nat.pow_add, ← Nat.pow_add]
    congr 1
    omega

def wholeMagnitude (n : Nat) : Nat := nearestMagnitude (n * Nat.pow 2 1074) 1

/-- The rank that a whole number is rounded to. -/
def wholeRank (i : Int) : Int :=
  if i < 0 then -(wholeMagnitude i.natAbs : Int) else wholeMagnitude i.natAbs

private theorem wholeMagnitude_mono {m n : Nat} (h : m ≤ n) : wholeMagnitude m ≤ wholeMagnitude n :=
  nearestMagnitude_mono (Nat.mul_le_mul_right _ h)

theorem wholeMagnitude_zero : wholeMagnitude 0 = 0 := by
  simp only [wholeMagnitude, Nat.zero_mul]
  decide

private theorem wholeMagnitude_eq {n e : Nat} (he : 1074 = e) (hn : n ≠ 0) :
    wholeMagnitude n = (n.log2 + e - 52) * 2 ^ 52 +
      roundHalfEven (n * 2 ^ e) (2 ^ (n.log2 + e - 52)) := by
  simp only [wholeMagnitude, he, nearestMagnitude_eq, Nat.pow_eq, log2_mul_two_pow hn]

theorem wholeMagnitude_pos {n : Nat} (hn : n ≠ 0) : 0 < wholeMagnitude n := by
  generalize he : 1074 = e
  rw [wholeMagnitude_eq he hn]
  have first : 0 < n.log2 + e - 52 := by omega
  positivity

private theorem wholeMagnitude_finite {n : Nat} (h : n < 2 ^ 64) :
    wholeMagnitude n < 2047 * Nat.pow 2 52 := by
  generalize he : 1074 = e
  by_cases hn : n = 0
  · rw [hn, wholeMagnitude_zero]
    decide
  · have hlog : n.log2 < 64 := (Nat.log2_lt hn).mpr h
    have rounded := roundHalfEven_le (n * 2 ^ e)
    rw [log2_mul_two_pow hn] at rounded
    rw [wholeMagnitude_eq he hn, Nat.pow_eq]
    omega

theorem exists_ofInt? {i : Int} (h : i.natAbs < 2 ^ 64) :
    ∃ d, ofInt? i = some d ∧ d.rank = wholeRank i := by
  refine ⟨⟨decide (i < 0), wholeMagnitude i.natAbs, wholeMagnitude_finite h⟩, ?_, ?_⟩
  · rw [ofInt?, ofQuotient, ofUnits, ← wholeMagnitude, ofMagnitude, dif_pos (wholeMagnitude_finite h)]
  · simp [rank, wholeRank]

private theorem wholeRank_mono {i j : Int} (h : i ≤ j) : wholeRank i ≤ wholeRank j := by
  unfold wholeRank
  split
  · split
    · have larger := wholeMagnitude_mono (show j.natAbs ≤ i.natAbs by omega)
      omega
    · omega
  · rw [if_neg (by omega)]
    have larger := wholeMagnitude_mono (show i.natAbs ≤ j.natAbs by omega)
    omega

/-- Two whole numbers that rounding keeps apart wherever they differ: one of them fits into a
significand, or they lie further apart than the numbers of 64 bits do. -/
def KeepsApart (i j : Int) : Prop :=
  i.natAbs < 2 ^ 53 ∨ j.natAbs < 2 ^ 53 ∨ 2 ^ 11 < (i - j).natAbs

instance (i j : Int) : Decidable (KeepsApart i j) := inferInstanceAs (Decidable (_ ∨ _ ∨ _))

theorem KeepsApart.symm {i j : Int} (h : KeepsApart i j) : KeepsApart j i := by
  unfold KeepsApart at h ⊢
  omega

private theorem units_near {d : Double} {n e : Nat} (he : 1074 = e) (hn : n < 2 ^ 64)
    (hd : d.magnitude = wholeMagnitude n) :
    d.units ≤ n * 2 ^ e + 2 ^ 10 * 2 ^ e ∧ n * 2 ^ e ≤ d.units + 2 ^ 10 * 2 ^ e ∧
      (n < 2 ^ 53 → d.units = n * 2 ^ e) ∧ (2 ^ 53 ≤ n → 2 ^ 53 * 2 ^ e ≤ d.units) := by
  by_cases hzero : n = 0
  · have nothing : d.units = 0 := by
      rw [hzero, wholeMagnitude_zero] at hd
      simp [units, significand, shift, hd]
    rw [nothing, hzero]
    simp
  · have hlog : n.log2 < 64 := (Nat.log2_lt hzero).mpr hn
    have low := le_roundHalfEven (n * 2 ^ e) (by rw [log2_mul_two_pow hzero]; omega)
    have high := roundHalfEven_le (n * 2 ^ e)
    rw [log2_mul_two_pow hzero] at low high
    rw [wholeMagnitude_eq he hzero] at hd
    have value := units_of_rounded hd low high
    obtain ⟨above, below⟩ := roundHalfEven_near (n * 2 ^ e) (Nat.two_pow_pos (n.log2 + e - 52))
    rw [← value] at above below
    have step : 2 ^ (n.log2 + e - 52) ≤ 2 ^ 11 * 2 ^ e := by
      rw [← Nat.pow_add]
      exact Nat.pow_le_pow_right (by omega) (by omega)
    refine ⟨by omega, by omega, fun small => ?_, fun large => ?_⟩
    · have places : n.log2 < 53 := (Nat.log2_lt hzero).mpr small
      have whole : n * 2 ^ e = n * 2 ^ (52 - n.log2) * 2 ^ (n.log2 + e - 52) := by
        rw [Nat.mul_assoc, ← Nat.pow_add]
        congr 2
        omega
      rw [value, whole, roundHalfEven_mul _ _ (Nat.two_pow_pos _)]
    · have places : 53 ≤ n.log2 := by
        by_contra few
        have := (Nat.log2_lt hzero).mp (Nat.lt_of_not_le few)
        omega
      calc 2 ^ 53 * 2 ^ e = 2 ^ 52 * 2 ^ (e + 1) := by rw [← Nat.pow_add, ← Nat.pow_add]; congr 1; omega
        _ ≤ 2 ^ 52 * 2 ^ (n.log2 + e - 52) :=
          Nat.mul_le_mul_left _ (Nat.pow_le_pow_right (by omega) (by omega))
        _ ≤ d.units := by
          rw [value]
          exact Nat.mul_le_mul_right _ low

private theorem close_of_wholeMagnitude_eq {m n : Nat} (hm : m < 2 ^ 64) (hn : n < 2 ^ 64)
    (h : wholeMagnitude m = wholeMagnitude n) : (m < 2 ^ 53 → m = n) ∧ m ≤ n + 2 ^ 11 := by
  generalize he : 1074 = e
  have unit : 0 < 2 ^ e := Nat.two_pow_pos e
  let d : Double := ⟨false, wholeMagnitude m, wholeMagnitude_finite hm⟩
  obtain ⟨-, first, small, -⟩ := units_near (d := d) he hm rfl
  obtain ⟨second, -, small', large⟩ := units_near (d := d) he hn h
  constructor
  · intro fits
    have whole := small fits
    rcases Nat.lt_or_ge n (2 ^ 53) with fits' | big
    · exact Nat.eq_of_mul_eq_mul_right unit (whole.symm.trans (small' fits'))
    · have less := Nat.mul_lt_mul_of_pos_right fits unit
      have more := large big
      omega
  · have both : m * 2 ^ e ≤ (n + 2 ^ 11) * 2 ^ e := by
      rw [Nat.add_mul]
      omega
    exact Nat.le_of_mul_le_mul_right both unit

private theorem wholeRank_ne {i j : Int} (hi : i.natAbs < 2 ^ 64) (hj : j.natAbs < 2 ^ 64)
    (h : KeepsApart i j) (hij : i ≠ j) : wholeRank i ≠ wholeRank j := by
  intro equal
  have together : wholeMagnitude i.natAbs = wholeMagnitude j.natAbs ∧ (i < 0 ↔ j < 0) := by
    have positive (k : Int) (hk : k < 0) := wholeMagnitude_pos (n := k.natAbs) (by omega)
    unfold wholeRank at equal
    split at equal <;> split at equal
    · exact ⟨by omega, by omega⟩
    · have := positive i ‹_›
      omega
    · have := positive j ‹_›
      omega
    · exact ⟨by omega, by omega⟩
  obtain ⟨same, sign⟩ := together
  obtain ⟨first, near⟩ := close_of_wholeMagnitude_eq hi hj same
  obtain ⟨second, near'⟩ := close_of_wholeMagnitude_eq hj hi same.symm
  rcases h with small | small | far
  · have := first small
    omega
  · have := second small
    omega
  · omega

theorem wholeRank_le_iff {i j : Int} (hi : i.natAbs < 2 ^ 64) (hj : j.natAbs < 2 ^ 64)
    (h : i ≠ j → KeepsApart i j) : wholeRank i ≤ wholeRank j ↔ i ≤ j := by
  refine ⟨fun ranks => ?_, wholeRank_mono⟩
  by_contra larger
  have differs : i ≠ j := by omega
  have back := wholeRank_mono (show j ≤ i by omega)
  exact wholeRank_ne hi hj (h differs) differs (Int.le_antisymm ranks back)

end Assay.Double
