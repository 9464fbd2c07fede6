/- digest: No text both names an instant and spells a number: behind the digits of a year stands a
   dash, and behind the first digits of a number there is none. -/

import Assay.Proofs.Number.Numeral

set_option autoImplicit false
set_option relaxedAutoImplicit false

namespace Assay

namespace Text

private theorem trimEndChars_prefix (cs : List Char) : trimEndChars cs <+: cs := by
  have back : (cs.reverse.dropWhile isBlank).reverse <+: cs.reverse.reverse :=
    List.reverse_prefix.mpr (List.dropWhile_suffix _)
  rwa [List.reverse_reverse] at back

private theorem trimStartChars_trimChars (cs : List Char) :
    trimStartChars (trimChars cs) = trimChars cs := by
  have front : trimChars cs <+: trimStartChars cs := trimEndChars_prefix _
  cases trimmed : trimChars cs with
  | nil => rfl
  | cons c rest =>
    rw [trimmed] at front
    obtain ⟨tail, whole⟩ := front
    have first : (cs.dropWhile isBlank).head? = some c := by
      have start : trimStartChars cs = c :: (rest ++ tail) := whole.symm
      rw [trimStartChars] at start
      rw [start, List.head?_cons]
    have shown := List.head?_dropWhile_not isBlank cs
    rw [first] at shown
    have visible : isBlank c = false := by simpa using shown
    simp [trimStartChars, visible]

end Text

namespace Instant

/-- A text begins with digits, with or without a sign before them, and a dash behind them. -/
private def Dashed (cs : List Char) : Prop :=
  ∃ sign ds rest, (sign = [] ∨ sign = ['+'] ∨ sign = ['-']) ∧ ds ≠ [] ∧
    (∀ c ∈ ds, Text.isDigit c = true) ∧ cs = sign ++ (ds ++ '-' :: rest)

variable {cs rest : List Char} {n least most : Nat}

private theorem eq_cons_of_readMark {mark : Char} (h : readMark mark cs = some rest) :
    cs = mark :: rest := by
  cases cs with
  | nil => cases h
  | cons c tail =>
    rw [readMark] at h
    split at h
    · rename_i equal
      cases h
      rw [equal]
    · cases h

private theorem exists_of_readDigits (hleast : 0 < least)
    (h : readDigits least most cs = some (n, rest)) :
    ∃ ds, ds ≠ [] ∧ (∀ c ∈ ds, Text.isDigit c = true) ∧ cs = ds ++ rest := by
  simp only [readDigits] at h
  split at h
  · cases h
  · rename_i enough
    obtain ⟨-, rfl⟩ := Prod.mk.inj (Option.some.inj h)
    have front : (cs.take most).takeWhile Text.isDigit <+: cs :=
      (List.takeWhile_prefix _).trans (List.take_prefix _ _)
    refine ⟨(cs.take most).takeWhile Text.isDigit, ?_, ?_, (List.prefix_iff_eq_append.mp front).symm⟩
    · intro none
      rw [none, List.length_nil] at enough
      omega
    · intro c hc
      exact List.mem_takeWhile_imp hc

private theorem dashed_of_readComplete {r : Instant × List Char} (h : readComplete cs = some r) :
    Dashed cs := by
  obtain ⟨⟨year, afterYear⟩, hyear, h⟩ := Option.bind_eq_some_iff.mp h
  obtain ⟨afterMark, hmark, -⟩ := Option.bind_eq_some_iff.mp h
  obtain ⟨ds, hne, hds, rfl⟩ := exists_of_readDigits (by omega) hyear
  obtain rfl := eq_cons_of_readMark hmark
  exact ⟨[], ds, afterMark, .inl rfl, hne, hds, rfl⟩

private theorem exists_of_readYear {year : Int} (h : readYear cs = some (year, rest)) :
    ∃ sign ds, (sign = [] ∨ sign = ['+'] ∨ sign = ['-']) ∧ ds ≠ [] ∧
      (∀ c ∈ ds, Text.isDigit c = true) ∧ Text.trimStartChars cs = sign ++ (ds ++ rest) := by
  unfold readYear at h
  split at h
  · rename_i digits start
    obtain ⟨⟨n, after⟩, hread, equal⟩ := Option.map_eq_some_iff.mp h
    obtain ⟨-, rfl⟩ := Prod.mk.inj equal
    obtain ⟨ds, hne, hds, whole⟩ := exists_of_readDigits (by omega) hread
    exact ⟨['-'], ds, .inr (.inr rfl), hne, hds, by rw [start, whole]; rfl⟩
  · rename_i digits start
    obtain ⟨⟨n, after⟩, hread, equal⟩ := Option.map_eq_some_iff.mp h
    obtain ⟨-, rfl⟩ := Prod.mk.inj equal
    obtain ⟨ds, hne, hds, whole⟩ := exists_of_readDigits (by omega) hread
    exact ⟨['+'], ds, .inr (.inl rfl), hne, hds, by rw [start, whole]; rfl⟩
  · obtain ⟨⟨n, after⟩, hread, equal⟩ := Option.map_eq_some_iff.mp h
    obtain ⟨-, rfl⟩ := Prod.mk.inj equal
    obtain ⟨ds, hne, hds, whole⟩ := exists_of_readDigits (by omega) hread
    exact ⟨[], ds, .inl rfl, hne, hds, whole⟩

private theorem dashed_of_readDate {r : Date × List Char} (h : readDate cs = some r) :
    Dashed (Text.trimStartChars cs) := by
  obtain ⟨⟨year, afterYear⟩, hyear, h⟩ := Option.bind_eq_some_iff.mp h
  obtain ⟨afterMark, hmark, -⟩ := Option.bind_eq_some_iff.mp h
  obtain ⟨sign, ds, hsign, hne, hds, whole⟩ := exists_of_readYear hyear
  obtain rfl := eq_cons_of_readMark hmark
  exact ⟨sign, ds, afterMark, hsign, hne, hds, whole⟩

private theorem dashed_of_readShort {separator : List Char → Option (List Char)}
    {r : Instant × List Char}
    (h : readShort separator cs = some r) : Dashed (Text.trimStartChars cs) := by
  obtain ⟨date, hdate, -⟩ := Option.bind_eq_some_iff.mp h
  exact dashed_of_readDate hdate

private theorem exists_of_whole? {r : Option (Instant × List Char)} {i : Instant}
    (h : whole? r = some i) :
    ∃ tail, r = some (i, tail) := by
  unfold whole? at h
  split at h
  · cases h
    exact ⟨[], rfl⟩
  · cases h

private theorem dashed_of_read? {text : String} {i : Instant} (h : read? text = some i) :
    Dashed (Text.trimChars text.toList) := by
  have start := Text.trimStartChars_trimChars text.toList
  simp only [read?, Option.or_eq_some_iff] at h
  rcases h with complete | ⟨-, marked | ⟨-, spaced | ⟨-, day⟩⟩⟩
  · obtain ⟨tail, hread⟩ := exists_of_whole? complete
    exact dashed_of_readComplete hread
  · obtain ⟨tail, hread⟩ := exists_of_whole? marked
    exact start ▸ dashed_of_readShort hread
  · obtain ⟨tail, hread⟩ := exists_of_whole? spaced
    exact start ▸ dashed_of_readShort hread
  · obtain ⟨tail, hread⟩ := exists_of_whole? day
    obtain ⟨date, hdate, -⟩ := Option.map_eq_some_iff.mp hread
    exact start ▸ dashed_of_readDate hdate

private theorem unsigned?_of_dash {ds : List Char} (hds : ∀ c ∈ ds, Text.isDigit c = true)
    (negative : Bool)
    (rest : List Char) : Decimal.unsigned? negative (ds ++ '-' :: rest) = none := by
  have span : Decimal.spanDigits (ds ++ '-' :: rest) = (ds, '-' :: rest) := by
    apply Decimal.spanDigits_append hds
    intro c hc
    obtain rfl : '-' = c := Option.some.inj hc
    decide
  simp [Decimal.unsigned?, span, Decimal.tail?]

private theorem Dashed.numeral?_eq (h : Dashed cs) : Decimal.numeral? cs = none := by
  obtain ⟨sign, ds, rest, hsign, hne, hds, rfl⟩ := h
  rcases hsign with rfl | rfl | rfl
  · obtain ⟨c, others, rfl⟩ := List.exists_cons_of_ne_nil hne
    have digit : Text.isDigit c = true := hds c List.mem_cons_self
    rw [List.nil_append, List.cons_append, Decimal.numeral?_of_isDigit digit]
    exact unsigned?_of_dash hds false rest
  · exact unsigned?_of_dash hds false rest
  · exact unsigned?_of_dash hds true rest

end Instant

private theorem Compare.number?_of_instant? {v : Json} {i : Instant} (h : instant? v = some i) :
    number? v = none := by
  cases v with
  | string s =>
    have dashed : Instant.Dashed (Text.trimChars s.toList) := Instant.dashed_of_read? h
    rw [number?, Decimal.read?, Text.trim, String.toList_ofList, dashed.numeral?_eq,
      Option.bind_none]
  | null | bool _ | number _ | array _ | object _ => cases h

theorem Compare.instant?_of_number? {v : Json} {d : Double} (h : number? v = some d) :
    instant? v = none := by
  cases named : instant? v with
  | none => rfl
  | some i =>
    have none : number? v = none := number?_of_instant? named
    rw [h] at none
    cases none

/-- A whole number in digits names no instant, however large it is. -/
theorem Compare.instant?_toString_int (i : Int) : instant? (.string (toString i)) = none := by
  cases named : instant? (.string (toString i)) with
  | none => rfl
  | some instant =>
    have dashed : Instant.Dashed (Text.trim (toString i)).toList := by
      rw [Text.trim, String.toList_ofList]
      exact Instant.dashed_of_read? named
    have refused := dashed.numeral?_eq
    rw [trim_toString_int, Decimal.numeral?_toString_int] at refused
    cases refused

end Assay
