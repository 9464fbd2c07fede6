/- digest: Lower case of a part inside a text: it is that of the part alone exactly where every
   sigma of the part ends a word in both or in neither. Names of plain letters are reached from
   plain letters alone. What is in lower case stays as it is when lowered again. -/

import Assay.Text.Casing
import Assay.Text.Search

set_option autoImplicit false
set_option relaxedAutoImplicit false

namespace Assay.Text

/-- Lower case of a part that stands after the characters `before`, which run backwards, and before
the characters `after`. -/
private def lowerWithin (before : List Char) : List Char → List Char → List Char
  | [], _ => []
  | c :: rest, after =>
    (if c = 'Σ' then [if endsWord before (rest ++ after) then 'ς' else 'σ'] else lowerChar c) ++
      lowerWithin (c :: before) rest after

private theorem lowerAfter_eq_lowerWithin (before part : List Char) :
    lowerAfter before part = lowerWithin before part [] := by
  induction part generalizing before with
  | nil => rfl
  | cons c rest ih => rw [lowerAfter, lowerWithin, List.append_nil, ih]

private theorem lowerAfter_append (before part after : List Char) :
    lowerAfter before (part ++ after) =
      lowerWithin before part after ++ lowerAfter (part.reverse ++ before) after := by
  induction part generalizing before with
  | nil => rfl
  | cons c rest ih =>
    rw [List.cons_append, lowerAfter, lowerWithin, ih, List.append_assoc, List.reverse_cons,
      List.append_assoc, List.singleton_append]

private theorem length_lowerWithin (before before' part after after' : List Char) :
    (lowerWithin before part after).length = (lowerWithin before' part after').length := by
  induction part generalizing before before' with
  | nil => rfl
  | cons c rest ih =>
    rw [lowerWithin, lowerWithin, List.length_append, List.length_append, ih (c :: before) (c :: before')]
    split <;> rfl

/-- Every sigma of a part ends a word between the characters `before`, which run backwards, and
`after` exactly where it ends one in the part alone. -/
def KeepsSigmas (before part after : List Char) : Prop :=
  ∀ x r, part = x ++ 'Σ' :: r → endsWord (x.reverse ++ before) (r ++ after) = endsWord x.reverse r

private theorem forall_split_cons {c d : Char} {rest : List Char}
    {P : List Char → List Char → Prop} :
    (∀ x r, c :: rest = x ++ d :: r → P x r) ↔
      (c = d → P [] rest) ∧ ∀ x r, rest = x ++ d :: r → P (c :: x) r := by
  constructor
  · intro h
    constructor
    · rintro rfl
      exact h [] rest rfl
    · rintro x r rfl
      exact h (c :: x) r rfl
  · rintro ⟨first, others⟩ x r equal
    cases x with
    | nil =>
      obtain ⟨rfl, rfl⟩ := List.cons.inj equal
      exact first rfl
    | cons b x =>
      obtain ⟨rfl, inside⟩ := List.cons.inj equal
      exact others x r inside

private theorem sigma_eq_iff (a b : Bool) :
    (if a then 'ς' else 'σ') = (if b then 'ς' else 'σ') ↔ a = b := by
  cases a <;> cases b <;> decide

private theorem lowerWithin_eq_iff (passed before part after : List Char) :
    lowerWithin (passed ++ before) part after = lowerWithin passed part [] ↔
      ∀ x r, part = x ++ 'Σ' :: r →
        endsWord (x.reverse ++ (passed ++ before)) (r ++ after) = endsWord (x.reverse ++ passed) r := by
  induction part generalizing passed with
  | nil =>
    simp [lowerWithin]
  | cons c rest ih =>
    have tail := ih (c :: passed)
    rw [List.cons_append] at tail
    rw [forall_split_cons, lowerWithin, lowerWithin, List.append_nil]
    by_cases sigma : c = 'Σ'
    · rw [if_pos sigma, if_pos sigma, List.singleton_append, List.singleton_append, List.cons.injEq,
        sigma_eq_iff, tail]
      simp [sigma]
    · rw [if_neg sigma, if_neg sigma, List.append_cancel_left_eq, tail]
      simp [sigma]

private theorem lowerWithin_eq_lowerAfter_iff {before part after : List Char} :
    lowerWithin before part after = lowerAfter [] part ↔ KeepsSigmas before part after := by
  have general := lowerWithin_eq_iff [] before part after
  simp only [List.nil_append, List.append_nil] at general
  rw [lowerAfter_eq_lowerWithin, general, KeepsSigmas]

instance (before part after : List Char) : Decidable (KeepsSigmas before part after) :=
  decidable_of_iff _ lowerWithin_eq_lowerAfter_iff

theorem keepsSigmas_of_not_mem {before part after : List Char} (h : 'Σ' ∉ part) :
    KeepsSigmas before part after := by
  rintro x r rfl
  simp at h

theorem occursIn_iff_infix {part cs : List Char} : occursIn part cs = true ↔ part <:+: cs := by
  induction cs with
  | nil => simp [occursIn]
  | cons c rest ih =>
    rw [occursIn, Bool.or_eq_true, List.isPrefixOf_iff_prefix, ih, List.infix_cons_iff]

private theorem toList_lower (s : String) : (lower s).toList = lowerAfter [] s.toList := by
  rw [lower, String.toList_ofList]

variable {t u w : String}

/-- Lower case begins with that of the first part exactly where this part keeps its sigmas. -/
theorem startsWith_lower_append :
    startsWith (lower (t ++ u)) (lower t) = true ↔ KeepsSigmas [] t.toList u.toList := by
  rw [startsWith, List.isPrefixOf_iff_prefix, toList_lower, toList_lower, String.toList_append,
    lowerAfter_append, ← lowerWithin_eq_lowerAfter_iff]
  have length := length_lowerWithin [] [] t.toList [] u.toList
  rw [← lowerAfter_eq_lowerWithin] at length
  constructor
  · intro front
    rw [List.prefix_iff_eq_take, length, List.take_left] at front
    exact front.symm
  · intro kept
    rw [kept]
    exact List.prefix_append _ _

/-- Lower case ends with that of the last part exactly where this part keeps its sigmas. -/
theorem endsWith_lower_append :
    endsWith (lower (u ++ t)) (lower t) = true ↔ KeepsSigmas u.toList.reverse t.toList [] := by
  rw [endsWith, List.isSuffixOf_iff_suffix, toList_lower, toList_lower, String.toList_append,
    lowerAfter_append, List.append_nil, ← lowerWithin_eq_lowerAfter_iff, ← lowerAfter_eq_lowerWithin]
  have length := length_lowerWithin [] u.toList.reverse t.toList [] []
  rw [← lowerAfter_eq_lowerWithin, ← lowerAfter_eq_lowerWithin] at length
  constructor
  · intro back
    rw [List.suffix_iff_eq_drop, length, List.length_append, Nat.add_sub_cancel, List.drop_left] at back
    exact back.symm
  · intro kept
    rw [kept]
    exact List.suffix_append _ _

theorem contains_lower_append (kept : KeepsSigmas u.toList.reverse t.toList w.toList) :
    contains (lower (u ++ t ++ w)) (lower t) = true := by
  rw [contains, occursIn_iff_infix, toList_lower, toList_lower, String.toList_append,
    String.toList_append, List.append_assoc, lowerAfter_append, lowerAfter_append, List.append_nil,
    lowerWithin_eq_lowerAfter_iff.mpr kept]
  rw [← List.append_assoc]
  exact List.infix_append _ _ _

/-- The letters `a` to `z` that are the lower case of their own capital and of no other character.
The letter `k` is also that of the sign for Kelvin. -/
def isOwnForm (c : Char) : Bool := 'a' ≤ c && c ≤ 'z' && c != 'k'

private theorem toNat_of_isOwnForm {c : Char} (h : isOwnForm c = true) :
    97 ≤ c.toNat ∧ c.toNat ≤ 122 ∧ c.toNat ≠ 107 := by
  simp only [isOwnForm, Bool.and_eq_true, decide_eq_true_eq, bne_iff_ne, Char.le_def,
    UInt32.le_iff_toNat_le] at h
  obtain ⟨⟨low, high⟩, other⟩ := h
  refine ⟨low, high, fun equal => other ?_⟩
  rw [← Char.ofNat_toNat c, equal]

private theorem lowerShifts_apart : Table.lowerShifts.rules.all (fun r =>
    r.last < 128 || r.move r.last < 97 || 122 < r.move r.first ||
      (r.move r.first == 107 && r.move r.last == 107)) = true := by
  decide +kernel

private theorem toNat_ofNat (n : Nat) : (Char.ofNat n).toNat = n ∨ (Char.ofNat n).toNat = 0 := by
  by_cases valid : n.isValidChar
  · left
    rw [Char.ofNat, dif_pos valid]
    rfl
  · right
    rw [Char.ofNat, dif_neg valid]
    rfl

private theorem isOwnForm_ofNat {n : Nat} (h : ¬ (97 ≤ n ∧ n ≤ 122 ∧ n ≠ 107)) :
    isOwnForm (Char.ofNat n) = false := by
  rw [Bool.eq_false_iff]
  intro own
  have bounds := toNat_of_isOwnForm own
  rcases toNat_ofNat n with code | zero
  · rw [code] at bounds
    exact h bounds
  · omega

private theorem isOwnForm_of_large {c : Char} (h : 128 ≤ c.toNat) : isOwnForm c = false := by
  rw [← Char.ofNat_toNat c]
  exact isOwnForm_ofNat (by omega)

private theorem isOwnForm_lowerShifts {c : Char} (h : 128 ≤ c.toNat) :
    isOwnForm (Table.lowerShifts.apply c) = false := by
  unfold ShiftRules.apply ShiftRules.find?
  cases found : Table.lowerShifts.rules.find? (·.applies c.toNat) with
  | none => exact isOwnForm_of_large h
  | some r =>
    have apart := List.all_eq_true.mp lowerShifts_apart r (List.mem_of_find?_eq_some found)
    have applies := List.find?_some found
    simp only [ShiftRule.applies, Bool.and_eq_true, decide_eq_true_eq] at applies
    simp only [Bool.or_eq_true, Bool.and_eq_true, decide_eq_true_eq, beq_iff_eq] at apart
    refine isOwnForm_ofNat fun reached => ?_
    simp only [ShiftRule.move] at apart reached
    omega

private theorem exists_not_isOwnForm {c : Char} (h : 128 ≤ c.toNat) (final : Bool) :
    ∃ d ∈ (if c = 'Σ' then [if final then 'ς' else 'σ'] else lowerChar c), isOwnForm d = false := by
  by_cases sigma : c = 'Σ'
  · rw [if_pos sigma]
    exact ⟨_, List.mem_singleton_self _, by cases final <;> decide⟩
  · rw [if_neg sigma, lowerChar, if_neg (by omega)]
    by_cases dotted : c = 'İ'
    · rw [if_pos dotted]
      exact ⟨Char.ofNat 0x307, by simp, by decide⟩
    · rw [if_neg dotted]
      exact ⟨_, List.mem_singleton_self _, isOwnForm_lowerShifts h⟩

private theorem lowerAfter_eq_iff {name : List Char} (own : ∀ c ∈ name, isOwnForm c = true)
    (before cs : List Char) : lowerAfter before cs = name ↔ cs.map lowerPlain = name := by
  induction cs generalizing before name with
  | nil => rfl
  | cons c rest ih =>
    rw [lowerAfter, List.map_cons]
    by_cases plain : c.toNat < 128
    · have other : c ≠ 'Σ' := by
        rintro rfl
        exact absurd plain (by decide)
      rw [if_neg other, lowerChar, if_pos plain, List.singleton_append]
      cases name with
      | nil => simp
      | cons d name =>
        rw [List.cons.injEq, List.cons.injEq, ih fun e he => own e (List.mem_cons_of_mem d he)]
    · have large : 128 ≤ c.toNat := by omega
      constructor
      · rintro rfl
        obtain ⟨d, inside, foreign⟩ := exists_not_isOwnForm large (endsWord before rest)
        rw [own d (List.mem_append_left _ inside)] at foreign
        cases foreign
      · rintro rfl
        have kept : lowerPlain c = c := by
          refine if_neg fun capital => ?_
          simp only [Char.le_def, UInt32.le_iff_toNat_le] at capital
          have high : c.toNat ≤ 90 := capital.2
          omega
        have first := own (lowerPlain c) List.mem_cons_self
        rw [kept, isOwnForm_of_large large] at first
        cases first

private theorem lowerPlain_of_isOwnForm {c : Char} (h : isOwnForm c = true) : lowerPlain c = c := by
  have bounds := toNat_of_isOwnForm h
  refine if_neg fun capital => ?_
  simp only [Char.le_def, UInt32.le_iff_toNat_le] at capital
  have high : c.toNat ≤ 90 := capital.2
  omega

/-- Where a name is made of these letters, its casings are those by plain letters. -/
theorem lower_eq_iff {name : String} (own : ∀ c ∈ name.toList, isOwnForm c = true) (s : String) :
    lower s = name ↔ sameIgnoringPlainCase s name = true := by
  have kept : name.toList.map lowerPlain = name.toList :=
    (List.map_congr_left fun c hc => lowerPlain_of_isOwnForm (own c hc)).trans (List.map_id _)
  rw [← String.toList_inj, toList_lower, lowerAfter_eq_iff own, sameIgnoringPlainCase, beq_iff_eq, kept]

/-- Whether no code to which the rule `r` leads is one of which `q` speaks: the two ranges are
apart, or the codes of the one are even where those of the other are odd. -/
private def ShiftRule.misses (r q : ShiftRule) : Bool :=
  (r.move r.last).blt q.first || q.last.blt (r.move r.first) ||
    q.step == 2 && (r.step == 2 && r.move r.first != 0 || r.first == r.last) &&
      (r.move r.first + q.first) % 2 == 1

private theorem ShiftRule.not_applies_move {r q : ShiftRule} {n : Nat} (missed : r.misses q = true)
    (applies : r.applies n = true) : q.applies (r.move n) = false := by
  rw [Bool.eq_false_iff]
  intro again
  simp only [ShiftRule.applies, Bool.and_eq_true, decide_eq_true_eq, beq_iff_eq] at applies again
  obtain ⟨⟨low, high⟩, grid⟩ := applies
  obtain ⟨⟨low', high'⟩, grid'⟩ := again
  simp only [ShiftRule.misses, Bool.or_eq_true, Bool.and_eq_true, Nat.blt_eq, beq_iff_eq,
    bne_iff_ne, ShiftRule.move] at missed
  simp only [ShiftRule.move] at low' high' grid'
  rcases missed with (below | above) | ⟨⟨double, steps⟩, odd⟩
  · omega
  · omega
  · rw [double] at grid'
    rcases steps with ⟨even, inside⟩ | single
    · rw [even] at grid
      omega
    · have : n = r.first := by omega
      subst this
      omega

private theorem lowerShifts_misses : Table.lowerShifts.rules.all (fun r =>
    Table.lowerShifts.rules.all r.misses) = true := by
  decide +kernel

private theorem lowerShifts_undotted : Table.lowerShifts.rules.all (fun r =>
    r.move r.last < 304 || 304 < r.move r.first) = true := by
  decide +kernel

/-- Lower case leaves the character alone, wherever it stands. -/
private def IsLow (c : Char) : Prop := c ≠ 'Σ' ∧ lowerChar c = [c]

private theorem lowerPlain_eq_self {c : Char}
    (still : ∀ r ∈ Table.lowerShifts.rules, r.applies c.toNat = false) :
    lowerPlain c = c := by
  have capitals : ⟨65, 90, 1, 32⟩ ∈ Table.lowerShifts.rules := List.mem_cons_self
  refine if_neg fun capital => ?_
  have applies : ShiftRule.applies ⟨65, 90, 1, 32⟩ c.toNat = true := by
    simp only [Char.le_def, UInt32.le_iff_toNat_le] at capital
    obtain ⟨low, high⟩ := capital
    simp only [ShiftRule.applies, Bool.and_eq_true, decide_eq_true_eq, Nat.mod_one, beq_self_eq_true,
      and_true]
    exact ⟨low, high⟩
  rw [still _ capitals] at applies
  cases applies

private theorem isLow_of_not_applies {c : Char} (undotted : c ≠ 'İ')
    (still : ∀ r ∈ Table.lowerShifts.rules, r.applies c.toNat = false) : IsLow c := by
  have kept : Table.lowerShifts.find? c = none := by
    rw [ShiftRules.find?, Option.map_eq_none_iff, List.find?_eq_none]
    intro r hr
    simp [still r hr]
  refine ⟨?_, ?_⟩
  · rintro rfl
    exact absurd kept (by decide +kernel)
  · rw [lowerChar, lowerPlain_eq_self still, if_neg undotted, ShiftRules.apply, kept, Option.getD_none,
      ite_self]

private theorem isLow_move {r : ShiftRule} (member : r ∈ Table.lowerShifts.rules) {n : Nat}
    (applies : r.applies n = true) : IsLow (Char.ofNat (r.move n)) := by
  have misses := List.all_eq_true.mp lowerShifts_misses r member
  have undotted := List.all_eq_true.mp lowerShifts_undotted r member
  rcases toNat_ofNat (r.move n) with code | zero
  · refine isLow_of_not_applies ?_ fun q hq => ?_
    · rintro dotted
      rw [dotted] at code
      simp only [ShiftRule.applies, Bool.and_eq_true, decide_eq_true_eq] at applies
      simp only [Bool.or_eq_true, decide_eq_true_eq] at undotted
      have reached : 304 = r.move n := code
      simp only [ShiftRule.move] at undotted reached
      omega
    · rw [code]
      exact ShiftRule.not_applies_move (List.all_eq_true.mp misses q hq) applies
  · rw [← Char.ofNat_toNat (Char.ofNat (r.move n)), zero]
    exact ⟨by decide, by decide⟩

private theorem isLow_lowerShifts {c : Char} (undotted : c ≠ 'İ') :
    IsLow (Table.lowerShifts.apply c) := by
  unfold ShiftRules.apply ShiftRules.find?
  cases found : Table.lowerShifts.rules.find? (·.applies c.toNat) with
  | none =>
    rw [List.find?_eq_none] at found
    exact isLow_of_not_applies undotted fun r hr => Bool.eq_false_iff.mpr (found r hr)
  | some r =>
    have applies := List.find?_some found
    exact isLow_move (List.mem_of_find?_eq_some found) applies

private theorem isLow_lowerPlain : ∀ n : Fin 128, IsLow (lowerPlain (Char.ofNat n)) := by
  unfold IsLow
  decide +kernel

private theorem isLow_of_mem_lowerChar {c d : Char} (member : d ∈ lowerChar c) : IsLow d := by
  rw [lowerChar] at member
  split at member
  next plain =>
    rw [List.mem_singleton.mp member, ← Char.ofNat_toNat c]
    exact isLow_lowerPlain ⟨c.toNat, plain⟩
  next =>
    split at member
    next =>
      obtain rfl | rfl : d = 'i' ∨ d = Char.ofNat 0x307 := by simpa using member
      · exact ⟨by decide, by decide +kernel⟩
      · exact ⟨by decide, by decide +kernel⟩
    next undotted =>
      rw [List.mem_singleton.mp member]
      exact isLow_lowerShifts undotted

private theorem isLow_of_mem_lowerAfter {before cs : List Char} {d : Char}
    (member : d ∈ lowerAfter before cs) : IsLow d := by
  induction cs generalizing before with
  | nil => cases member
  | cons c rest ih =>
    rw [lowerAfter, List.mem_append] at member
    rcases member with here | later
    · split at here
      · obtain rfl | rfl : d = 'ς' ∨ d = 'σ' := by
          rw [List.mem_singleton.mp here]
          split
          · exact .inl rfl
          · exact .inr rfl
        · exact ⟨by decide, by decide +kernel⟩
        · exact ⟨by decide, by decide +kernel⟩
      · exact isLow_of_mem_lowerChar here
    · exact ih later

private theorem lowerAfter_of_isLow {before cs : List Char} (low : ∀ c ∈ cs, IsLow c) :
    lowerAfter before cs = cs := by
  induction cs generalizing before with
  | nil => rfl
  | cons c rest ih =>
    obtain ⟨other, kept⟩ := low c List.mem_cons_self
    rw [lowerAfter, if_neg other, kept, ih fun d hd => low d (List.mem_cons_of_mem c hd)]
    rfl

theorem lower_lower (s : String) : lower (lower s) = lower s := by
  rw [← String.toList_inj, toList_lower (lower s)]
  refine lowerAfter_of_isLow fun c member => ?_
  rw [toList_lower] at member
  exact isLow_of_mem_lowerAfter member

end Assay.Text
