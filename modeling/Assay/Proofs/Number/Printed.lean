/- digest: The document form of a number reads back as the number, its sign included. -/

import Assay.Json.Render
import Assay.Proofs.Number.Numeral
import Assay.Proofs.Number.Shortest

set_option autoImplicit false
set_option relaxedAutoImplicit false

namespace Assay

open Shortest (Spells)

variable {d : Double} {n : Decimal.Numeral}

private theorem Double.ofMagnitude_magnitude (d : Double) :
    ofMagnitude d.negative d.magnitude = some d := by
  rw [ofMagnitude, dif_pos d.finite]

namespace Decimal.Numeral

private theorem two_pow_le_ten_pow (n : Nat) : 2 ^ (3 * n) ≤ 10 ^ n := by
  rw [Nat.pow_mul]
  exact Nat.pow_le_pow_left (by omega) n

private theorem bounds_of_spells {c e : Nat} {k : Int} (he : 1074 = e) (h : d.magnitude ≠ 0)
    (spells : Spells d c k) : 10 ^ (-k).toNat ≤ 2 * (c * 10 ^ k.toNat * 2 ^ e) ∧
      c * 10 ^ k.toNat * 2 ^ e < 2 ^ (e + 1024) * 10 ^ (-k).toNat := by
  unfold Spells at spells
  generalize hplaces : 1074 = places at spells
  obtain rfl : places = e := hplaces.symm.trans he
  rw [Nat.pow_eq] at spells
  obtain ⟨low, high, -⟩ := Double.bounds_of_holds spells
  have gap := Nat.mul_le_mul_right (10 ^ (-k).toNat * 2 ^ d.shift) (Shortest.lowGap_le d)
  have least := Nat.mul_le_mul_right (10 ^ (-k).toNat * 2 ^ d.shift) (Double.significand_pos h)
  have most := Nat.mul_le_mul_right (10 ^ (-k).toNat * 2 ^ d.shift) (Double.significand_lt d)
  have step : 0 < 10 ^ (-k).toNat * 2 ^ d.shift := by positivity
  generalize c * 10 ^ k.toNat * 2 ^ places = point at low high ⊢
  generalize 10 ^ (-k).toNat = scale at *
  rw [Nat.succ_mul] at least most
  constructor
  · have whole : scale * 1 ≤ scale * 2 ^ d.shift := Nat.mul_le_mul_left _ (Nat.two_pow_pos _)
    omega
  · have shift := Double.shift_lt d
    calc point < 2 ^ 53 * (scale * 2 ^ d.shift) := by omega
      _ = 2 ^ (53 + d.shift) * scale := by rw [Nat.pow_add]; ring
      _ ≤ 2 ^ (places + 1024) * scale :=
        Nat.mul_le_mul_right _ (Nat.pow_le_pow_right (by omega) (by omega))

private theorem digits_ne_zero (h : d.magnitude ≠ 0) (spells : Spells d n.digits n.exponent) :
    n.digits ≠ 0 := by
  intro none
  have low := (bounds_of_spells rfl h spells).1
  rw [none, Nat.zero_mul, Nat.zero_mul] at low
  have scale : 0 < 10 ^ (-n.exponent).toNat := Nat.pow_pos (by omega)
  omega

private theorem exponent_le (h : d.magnitude ≠ 0) (spells : Spells d n.digits n.exponent) :
    n.exponent ≤ 400 := by
  by_contra large
  have digits := digits_ne_zero h spells
  generalize he : 1074 = e
  have high := (bounds_of_spells he h spells).2
  have none : (-n.exponent).toNat = 0 := by omega
  have power : 2 ^ (3 * n.exponent.toNat + e) < 2 ^ (e + 1024) := by
    calc 2 ^ (3 * n.exponent.toNat + e) = 1 * 2 ^ (3 * n.exponent.toNat) * 2 ^ e := by
          rw [Nat.pow_add, Nat.one_mul]
      _ ≤ n.digits * 10 ^ n.exponent.toNat * 2 ^ e :=
        Nat.mul_le_mul_right _ (Nat.mul_le_mul (by omega) (two_pow_le_ten_pow _))
      _ < 2 ^ (e + 1024) := by simpa [none] using high
  have places := (Nat.pow_lt_pow_iff_right (by omega)).mp power
  omega

private theorem le_exponent (h : d.magnitude ≠ 0) (spells : Spells d n.digits n.exponent) :
    -(400 + n.digits.log2 : Int) ≤ n.exponent := by
  by_contra small
  generalize he : 1074 = e
  have low := (bounds_of_spells he h spells).1
  have none : n.exponent.toNat = 0 := by omega
  rw [none, Nat.pow_zero, Nat.mul_one] at low
  have power : 2 ^ (3 * (-n.exponent).toNat) < 2 ^ (n.digits.log2 + 1 + e + 1) := by
    calc 2 ^ (3 * (-n.exponent).toNat) ≤ 2 * (n.digits * 2 ^ e) := (two_pow_le_ten_pow _).trans low
      _ < 2 * (2 ^ (n.digits.log2 + 1) * 2 ^ e) := by
        have size := Nat.mul_lt_mul_of_pos_right (Nat.lt_log2_self (n := n.digits)) (Nat.two_pow_pos e)
        omega
      _ = 2 ^ (n.digits.log2 + 1 + e + 1) := by ring
  have places := (Nat.pow_lt_pow_iff_right (by omega)).mp power
  omega

private theorem nearest?_of_zero (h : n.digits = 0) (zero : d.magnitude = 0)
    (sign : n.negative = d.negative) :
    n.nearest? = some d := by
  rw [nearest?, if_pos h, sign, ← zero, Double.ofMagnitude_magnitude]

private theorem nearest?_of_spells (h : d.magnitude ≠ 0) (spells : Spells d n.digits n.exponent)
    (sign : n.negative = d.negative) : n.nearest? = some d := by
  -- Neither of the shortcuts for exponents far outside the range is taken.
  have digits := digits_ne_zero h spells
  have high := exponent_le h spells
  have low := le_exponent h spells
  have rounded := Double.nearestMagnitude_of_holds (Nat.pow_pos (by omega)) spells
  rw [nearest?, if_neg digits, if_neg (by omega), if_neg (by omega)]
  rw [← Double.ofMagnitude_magnitude d, ← sign, ← rounded]
  split
  · have none : (-n.exponent).toNat = 0 := by omega
    rw [none, Nat.pow_zero]
    rfl
  · have none : n.exponent.toNat = 0 := by omega
    rw [none, Nat.pow_zero, Nat.mul_one]
    rfl

end Decimal.Numeral

namespace Text

private theorem digitsValue_append_zeros (cs : List Char) (n : Nat) :
    digitsValue (cs ++ List.replicate n '0') = digitsValue cs * 10 ^ n := by
  induction n with
  | zero => simp
  | succ n ih =>
    have last : digitsValue (cs ++ List.replicate n '0' ++ ['0']) =
        digitsValue (cs ++ List.replicate n '0') * 10 := by
      simp [digitsValue]
    rw [List.replicate_succ', ← List.append_assoc, last, ih, Nat.pow_succ, Nat.mul_assoc]

private theorem digitsValue_zeros_append (cs : List Char) (n : Nat) :
    digitsValue (List.replicate n '0' ++ cs) = digitsValue cs := by
  induction n with
  | zero => rfl
  | succ n ih =>
    rw [← ih]
    simp [List.replicate_succ, digitsValue]

private theorem isDigit_of_mem_zeros {n : Nat} {c : Char} (h : c ∈ List.replicate n '0') :
    isDigit c = true := by
  rw [List.eq_of_mem_replicate h]
  decide

end Text

namespace Decimal

/-- The parts of an unsigned decimal as written: digits, digits behind a point, and an exponent. -/
structure Layout where
  whole : List Char
  fraction : Option (List Char)
  exponent : Option Int

namespace Layout

variable {l : Layout}

/-- The text of the exponent, always with a sign. -/
def mark (e : Int) : List Char :=
  'e' :: (if e < 0 then '-' else '+') :: Nat.toDigits 10 e.natAbs

def chars (l : Layout) : List Char :=
  l.whole ++ l.fraction.elim [] ('.' :: ·) ++ l.exponent.elim [] mark

/-- There are digits before the point, and nothing but digits on both sides of it. -/
structure IsProper (l : Layout) : Prop where
  whole_ne : l.whole ≠ []
  whole_digits : ∀ c ∈ l.whole, Text.isDigit c = true
  fraction_digits : ∀ c ∈ l.fraction.getD [], Text.isDigit c = true

def digits (l : Layout) : Nat := Text.digitsValue (l.whole ++ l.fraction.getD [])

def power (l : Layout) : Int := l.exponent.getD 0 - (l.fraction.getD []).length

private theorem tail?_mark (e : Int) : tail? (mark e) = some e := by
  have digits : Nat.toDigits 10 e.natAbs ≠ [] ∧ (Nat.toDigits 10 e.natAbs).all Text.isDigit = true :=
    ⟨Nat.toDigits_ne_nil, List.all_eq_true.mpr fun c hc => Text.isDigit_of_mem_toDigits hc⟩
  unfold mark
  split
  · simp only [tail?, exponent?, exponent?.unsigned?, if_pos digits, Text.digitsValue_toDigits,
      Option.map_some]
    congr 1
    omega
  · simp only [tail?, exponent?, exponent?.unsigned?, if_pos digits, Text.digitsValue_toDigits]
    congr 1
    omega

private theorem tail?_exponent (o : Option Int) : tail? (o.elim [] mark) = some (o.getD 0) := by
  cases o with
  | none => rfl
  | some e => exact tail?_mark e

private theorem head?_exponent {o : Option Int} {c : Char} (h : c ∈ (o.elim [] mark).head?) :
    c = 'e' := by
  cases o with
  | none => cases h
  | some e => exact (Option.some.inj h).symm

private theorem unsigned?_chars (h : l.IsProper) (negative : Bool) :
    unsigned? negative l.chars = some ⟨negative, l.digits, l.power⟩ := by
  obtain ⟨whole, fraction, exponent⟩ := l
  have behind : ∀ c ∈ (exponent.elim [] mark).head?, Text.isDigit c = false := by
    intro c hc
    rw [head?_exponent hc]
    decide
  cases fraction with
  | none =>
    have first := spanDigits_append h.whole_digits behind
    have rest := tail?_exponent exponent
    have shown : chars ⟨whole, none, exponent⟩ = whole ++ exponent.elim [] mark := by simp [chars]
    rw [shown, unsigned?, first]
    cases exponent with
    | none => simp [h.whole_ne, tail?, digits, power]
    | some e =>
      obtain ⟨signed, hmark⟩ : ∃ signed, mark e = 'e' :: signed := ⟨_, rfl⟩
      rw [Option.elim_some, hmark] at rest ⊢
      simp [h.whole_ne, rest, digits, power]
  | some fraction =>
    have point : ∀ c ∈ ('.' :: (fraction ++ exponent.elim [] mark)).head?, Text.isDigit c = false := by
      intro c hc
      obtain rfl : '.' = c := Option.some.inj hc
      decide
    have first := spanDigits_append h.whole_digits point
    have second := spanDigits_append h.fraction_digits behind
    have rest := tail?_exponent exponent
    have shown : chars ⟨whole, some fraction, exponent⟩ =
        whole ++ '.' :: (fraction ++ exponent.elim [] mark) := by simp [chars]
    rw [Option.getD_some] at second
    rw [shown, unsigned?, first]
    simp [second, h.whole_ne, rest, digits, power]

private theorem not_isBlank_of_mem_mark {e : Int} {c : Char} (h : c ∈ mark e) :
    Text.isBlank c = false := by
  simp only [mark, List.mem_cons] at h
  rcases h with rfl | rfl | digit
  · decide
  · split <;> decide
  · exact Text.isBlank_of_isDigit (Text.isDigit_of_mem_toDigits digit)

private theorem not_isBlank_of_mem {c : Char} (h : l.IsProper) (hc : c ∈ l.chars) :
    Text.isBlank c = false := by
  obtain ⟨whole, fraction, exponent⟩ := l
  simp only [chars, List.mem_append] at hc
  rcases hc with (front | behind) | marked
  · exact Text.isBlank_of_isDigit (h.whole_digits c front)
  · cases fraction with
    | none => cases behind
    | some fraction =>
      rcases List.mem_cons.mp behind with rfl | digit
      · decide
      · exact Text.isBlank_of_isDigit (h.fraction_digits c digit)
  · cases exponent with
    | none => cases marked
    | some e => exact not_isBlank_of_mem_mark marked

theorem numeral?_signText {text : String} (h : l.IsProper) (shown : text.toList = l.chars) :
    numeral? (d.signText ++ text).toList = some ⟨d.negative, l.digits, l.power⟩ := by
  rw [String.toList_append, shown, ← unsigned?_chars h, Double.signText]
  cases d.negative with
  | true => rfl
  | false =>
    obtain ⟨c, rest, whole⟩ := List.exists_cons_of_ne_nil h.whole_ne
    have digit : Text.isDigit c = true := h.whole_digits c (whole ▸ List.mem_cons_self)
    have start : l.chars = c :: (rest ++ l.fraction.elim [] ('.' :: ·) ++ l.exponent.elim [] mark) := by
      rw [chars, whole]
      rfl
    rw [start]
    exact numeral?_of_isDigit digit

theorem trim_signText {text : String} (h : l.IsProper) (shown : text.toList = l.chars) :
    Text.trim (d.signText ++ text) = d.signText ++ text := by
  rw [Text.trim, Text.trimChars_of_no_blank, String.ofList_toList]
  intro c hc
  rw [String.toList_append, shown, Double.signText] at hc
  rcases List.mem_append.mp hc with sign | part
  · split at sign
    · rw [List.mem_singleton.mp sign]
      decide
    · cases sign
  · exact not_isBlank_of_mem h part

end Layout

end Decimal

namespace Double

open Decimal (Layout)

variable {c : Nat} {k : Int}

/-- A text is laid out as a decimal whose value is that of `c * 10 ^ k`. -/
private def LaysOut (text : String) (c : Nat) (k : Int) : Prop :=
  ∃ l : Layout, l.IsProper ∧ text.toList = l.chars ∧
    ∀ d : Double, Spells d c k → Spells d l.digits l.power

private theorem laysOut_of_eq {text : String} {l : Layout} (proper : l.IsProper)
    (shown : text.toList = l.chars)
    (digits : l.digits = c) (power : l.power = k) : LaysOut text c k := by
  refine ⟨l, proper, shown, ?_⟩
  intro d spells
  rwa [digits, power]

private theorem exists_digits (c : Nat) : ∃ ds, toString c = String.ofList ds ∧ ds ≠ [] ∧
    (∀ x ∈ ds, Text.isDigit x = true) ∧ Text.digitsValue ds = c :=
  ⟨Nat.toDigits 10 c, Nat.toString_eq_ofList_toDigits, Nat.toDigits_ne_nil,
    fun _ hx => Text.isDigit_of_mem_toDigits hx, Text.digitsValue_toDigits c⟩

private theorem laysOut_whole (hk : 0 ≤ k) :
    LaysOut (positional (toString c) ((toString c).length + k) ++ ".0") c k := by
  obtain ⟨ds, shown, hne, hds, value⟩ := exists_digits c
  have length := List.length_pos_iff.mpr hne
  rw [shown, String.length_ofList]
  refine ⟨⟨ds ++ List.replicate k.toNat '0', some ['0'], none⟩, ⟨by simp [hne], ?_, ?_⟩, ?_, ?_⟩
  · intro x hx
    rcases List.mem_append.mp hx with digit | zero
    · exact hds x digit
    · exact Text.isDigit_of_mem_zeros zero
  · intro x hx
    exact Text.isDigit_of_mem_zeros (n := 1) hx
  · have fill : ((ds.length : Int) + k).toNat - ds.length = k.toNat := by omega
    rw [positional, if_neg (by omega), String.length_ofList, if_pos (by omega), fill, zeros]
    simp [Layout.chars]
  · intro d spells
    have zeros : Layout.digits ⟨ds ++ List.replicate k.toNat '0', some ['0'], none⟩ =
        c * 10 ^ (k.toNat + 1) := by
      rw [Layout.digits, Option.getD_some, List.append_assoc, ← List.replicate_succ',
        Text.digitsValue_append_zeros, value]
    have power : Layout.power ⟨ds ++ List.replicate k.toNat '0', some ['0'], none⟩ +
        (k.toNat + 1 : Nat) = k := by
      simp [Layout.power]
      omega
    rwa [zeros, Shortest.spells_mul_pow, power]

private theorem laysOut_fraction (hk : k < 0) :
    LaysOut (positional (toString c) ((toString c).length + k)) c k := by
  obtain ⟨ds, shown, hne, hds, value⟩ := exists_digits c
  rw [shown, String.length_ofList, positional, String.length_ofList, String.toList_ofList]
  split
  · rename_i small
    generalize hn : (-((ds.length : Int) + k)).toNat = n
    refine laysOut_of_eq (l := ⟨['0'], some (List.replicate n '0' ++ ds), none⟩)
      ⟨by simp, ?_, ?_⟩ ?_ ?_ ?_
    · intro x hx
      exact Text.isDigit_of_mem_zeros (n := 1) hx
    · intro x hx
      rcases List.mem_append.mp hx with zero | digit
      · exact Text.isDigit_of_mem_zeros zero
      · exact hds x digit
    · simp [Layout.chars, zeros]
    · have leading : ['0'] ++ (List.replicate n '0' ++ ds) = List.replicate (n + 1) '0' ++ ds := rfl
      rw [Layout.digits, Option.getD_some, leading, Text.digitsValue_zeros_append, value]
    · simp [Layout.power]
      omega
  · rename_i large
    rw [if_neg (by omega)]
    generalize hn : ((ds.length : Int) + k).toNat = n
    refine laysOut_of_eq (l := ⟨ds.take n, some (ds.drop n), none⟩) ⟨?_, ?_, ?_⟩ ?_ ?_ ?_
    · simp [hne]
      omega
    · intro x hx
      exact hds x (List.mem_of_mem_take hx)
    · intro x hx
      exact hds x (List.mem_of_mem_drop hx)
    · simp [Layout.chars]
    · rw [Layout.digits, Option.getD_some, List.take_append_drop, value]
    · simp [Layout.power]
      omega

private theorem laysOut_scientific :
    LaysOut (scientific (toString c) ((toString c).length + k - 1)) c k := by
  obtain ⟨ds, shown, hne, hds, value⟩ := exists_digits c
  have length := List.length_pos_iff.mpr hne
  generalize he : ((toString c).length : Int) + k - 1 = e
  rw [shown, String.length_ofList] at he
  have front : ds.take 1 ≠ [] := by simp [hne]
  have digits (x : Char) (hx : x ∈ ds.take 1) : Text.isDigit x = true := hds x (List.mem_of_mem_take hx)
  have exponent : ("e" ++ (if e < 0 then "-" else "+") ++ toString e.natAbs).toList =
      Layout.mark e := by
    rw [Nat.toString_eq_ofList_toDigits]
    unfold Layout.mark
    split <;> simp
  rw [shown, scientific, String.toList_ofList]
  have parts := List.take_append_drop 1 ds
  cases others : ds.drop 1 with
  | nil =>
    rw [others, List.append_nil] at parts
    refine laysOut_of_eq (l := ⟨ds.take 1, none, some e⟩) ⟨front, digits, by simp⟩ ?_ ?_ ?_
    · simp [Layout.chars, ← exponent]
    · rw [Layout.digits, Option.getD_none, List.append_nil, parts, value]
    · have one : ds.length ≤ 1 := List.drop_eq_nil_iff.mp others
      simp [Layout.power]
      omega
  | cons second rest =>
    rw [← others]
    refine laysOut_of_eq (l := ⟨ds.take 1, some (ds.drop 1), some e⟩) ⟨front, digits, ?_⟩ ?_ ?_ ?_
    · intro x hx
      exact hds x (List.mem_of_mem_drop hx)
    · simp [Layout.chars, ← exponent, others]
    · rw [Layout.digits, Option.getD_some, parts, value]
    · simp [Layout.power]
      omega

private theorem exists_laysOut (h : d.magnitude ≠ 0) : ∃ body, d.render = d.signText ++ body ∧
    LaysOut body (Shortest.digits d).1 (Shortest.digits d).2 := by
  have nonzero : d.isZero = false := by simpa [isZero] using h
  rw [render, nonzero, if_neg Bool.false_ne_true]
  generalize Shortest.digits d = decimal
  obtain ⟨c, k⟩ := decimal
  refine ⟨_, rfl, ?_⟩
  dsimp only
  split
  · exact laysOut_whole (by omega)
  · split
    · exact laysOut_fraction (by omega)
    · exact laysOut_scientific

private theorem exists_layout (d : Double) : ∃ (body : String)
    (l : Layout), d.render = d.signText ++ body ∧
    l.IsProper ∧ body.toList = l.chars ∧
    Decimal.Numeral.nearest? ⟨d.negative, l.digits, l.power⟩ = some d := by
  by_cases h : d.magnitude = 0
  · have zero : d.isZero = true := by simpa [isZero] using h
    refine ⟨"0.0", ⟨['0'], some ['0'], none⟩, ?_, ⟨by simp, ?_, ?_⟩, rfl, ?_⟩
    · rw [render, if_pos zero]
    · exact fun x hx => Text.isDigit_of_mem_zeros (n := 1) hx
    · exact fun x hx => Text.isDigit_of_mem_zeros (n := 1) hx
    · exact Decimal.Numeral.nearest?_of_zero rfl h rfl
  · obtain ⟨body, shown, l, proper, chars, spells⟩ := exists_laysOut h
    exact ⟨body, l, shown, proper, chars,
      Decimal.Numeral.nearest?_of_spells h (spells d (Shortest.spells_digits h)) rfl⟩

private theorem read?_render (d : Double) : Decimal.read? d.render = some d := by
  obtain ⟨body, l, shown, proper, chars, nearest⟩ := exists_layout d
  rw [shown, Decimal.read?, Layout.numeral?_signText proper chars, Option.bind_some, nearest]

private theorem trim_render (d : Double) : Text.trim d.render = d.render := by
  obtain ⟨body, l, shown, proper, chars, -⟩ := exists_layout d
  rw [shown]
  exact Layout.trim_signText proper chars

end Double

theorem Compare.number?_render (n : Number) : number? (.string n.render) = n.toDouble? := by
  cases n with
  | int i => exact number?_toString_int i
  | float d => rw [number?, Number.render, Double.trim_render, Double.read?_render, Number.toDouble?]

end Assay
