/- digest: Messages as wordings with slots for the operands. A text that occurs in a message in no
   other place than a slot is replaced there and nowhere else. -/

import Assay.Assertion.Basic

set_option autoImplicit false
set_option relaxedAutoImplicit false

namespace Assay

namespace Text

private theorem replaceChars_wait (part new l rest : List Char) :
    replaceChars part new l.length (l ++ rest) = replaceChars part new 0 rest := by
  induction l with
  | nil => rfl
  | cons c l ih => exact ih

private theorem replaceChars_append_self {part : List Char} (hpart : part ≠ [])
    (new rest : List Char) :
    replaceChars part new 0 (part ++ rest) = new ++ replaceChars part new 0 rest := by
  cases part with
  | nil => exact absurd rfl hpart
  | cons c part =>
    have front : (c :: part).isPrefixOf (c :: (part ++ rest)) = true :=
      List.isPrefixOf_iff_prefix.mpr ⟨rest, rfl⟩
    rw [List.cons_append, replaceChars, if_pos front]
    exact congrArg (new ++ ·) (replaceChars_wait (c :: part) new part rest)

private theorem replaceChars_append_of_not_prefix {part new l rest : List Char}
    (h : ∀ n, n < l.length → ¬ part <+: (l ++ rest).drop n) :
    replaceChars part new 0 (l ++ rest) = l ++ replaceChars part new 0 rest := by
  induction l with
  | nil => rfl
  | cons c l ih =>
    have front : ¬ part.isPrefixOf (c :: (l ++ rest)) = true :=
      fun occurs => h 0 (Nat.succ_pos _) (List.isPrefixOf_iff_prefix.mp occurs)
    rw [List.cons_append, replaceChars, if_neg front, ih, List.cons_append]
    intro n hn
    exact h (n + 1) (Nat.succ_lt_succ hn)

end Text

/-- A part of a wording: words that are always there, or the slot of an operand. -/
inductive MessagePart
  | words (text : String)
  | actual
  | expected
  deriving DecidableEq

namespace MessagePart

def text (a e : String) : MessagePart → String
  | .words t => t
  | .actual => a
  | .expected => e

def isSlot : MessagePart → Bool
  | .words _ => false
  | .actual => true
  | .expected => true

end MessagePart

abbrev Wording := List MessagePart

namespace Wording

def fill (a e : String) : Wording → String
  | [] => ""
  | p :: rest => p.text a e ++ fill a e rest

/-- Where the slots with a text begin in the filled message. -/
def places (a e text : String) : Wording → List Nat
  | [] => []
  | p :: rest =>
    let here := if p.isSlot && p.text a e == text then [0] else []
    here ++ (places a e text rest).map ((p.text a e).toList.length + ·)

/-- A text occurs in the filled message in no other place than the slots that it fills. -/
def ShowsOnly (w : Wording) (a e text : String) : Prop :=
  ∀ n, n < (w.fill a e).toList.length →
    text.toList.isPrefixOf ((w.fill a e).toList.drop n) = true → n ∈ w.places a e text

instance (w : Wording) (a e text : String) : Decidable (w.ShowsOnly a e text) :=
  inferInstanceAs (Decidable (∀ n, n < (w.fill a e).toList.length →
    text.toList.isPrefixOf ((w.fill a e).toList.drop n) = true → n ∈ w.places a e text))

def hide (value text : String) : String := if text = value then maskText else text

variable {a e value : String}

private theorem not_prefix_of_showsOnly {p : MessagePart} {rest : Wording}
    (hp : (p.isSlot && p.text a e == value) = false)
    (h : ShowsOnly (p :: rest) a e value) :
    ∀ n, n < (p.text a e).toList.length →
      ¬ value.toList <+: ((p.text a e).toList ++ (fill a e rest).toList).drop n := by
  intro n hn occurs
  have chars : (fill a e (p :: rest)).toList =
      (p.text a e).toList ++ (fill a e rest).toList := by rw [fill, String.toList_append]
  have inside : n ∈ places a e value (p :: rest) := by
    refine h n ?_ ?_
    · rw [chars, List.length_append]
      omega
    · rw [chars]
      exact List.isPrefixOf_iff_prefix.mpr occurs
  -- The only slots that the text fills lie behind this part.
  simp only [places, hp, Bool.false_eq_true, if_false, List.nil_append, List.mem_map] at inside
  obtain ⟨m, -, rfl⟩ := inside
  omega

private theorem ShowsOnly.tail {p : MessagePart} {rest : Wording} (hvalue : value ≠ "")
    (h : ShowsOnly (p :: rest) a e value) : ShowsOnly rest a e value := by
  intro n hn occurs
  have chars : (fill a e (p :: rest)).toList =
      (p.text a e).toList ++ (fill a e rest).toList := by rw [fill, String.toList_append]
  have inside : (p.text a e).toList.length + n ∈ places a e value (p :: rest) := by
    refine h _ ?_ ?_
    · rw [chars, List.length_append]
      omega
    · rwa [chars, List.drop_append, List.drop_eq_nil_of_le (by omega), List.nil_append,
        Nat.add_sub_cancel_left]
  rcases List.mem_append.mp inside with here | later
  · split at here
    · rename_i slot
      -- A slot at the front is not empty, so the place behind it is not its own.
      have zero : (p.text a e).toList.length + n = 0 := by simpa using here
      have empty : p.text a e = "" := by
        rw [← String.toList_inj, String.toList_empty]
        exact List.length_eq_zero_iff.mp (by omega)
      have equal : p.text a e = value := by simp_all
      exact absurd (equal.symm.trans empty) hvalue
    · cases here
  · obtain ⟨m, hm, equal⟩ := List.mem_map.mp later
    obtain rfl : m = n := by omega
    exact hm

private theorem replaceChars_fill {w : Wording} (hvalue : value ≠ "")
    (h : w.ShowsOnly a e value) :
    Text.replaceChars value.toList maskText.toList 0 (w.fill a e).toList =
      (w.fill (hide value a) (hide value e)).toList := by
  have chars : value.toList ≠ [] := by
    intro none
    exact hvalue (by rw [← String.toList_inj, none, String.toList_empty])
  induction w with
  | nil => rfl
  | cons p rest ih =>
    have later := ih (h.tail hvalue)
    rw [fill, fill, String.toList_append, String.toList_append, ← later]
    cases filled : (p.isSlot && p.text a e == value) with
    | true =>
      have equal : p.text a e = value := by simp_all
      have hidden : p.text (hide value a) (hide value e) = maskText := by
        cases p with
        | words t => cases filled
        | actual => exact if_pos equal
        | expected => exact if_pos equal
      rw [equal, hidden]
      exact Text.replaceChars_append_self chars _ _
    | false =>
      have kept : p.text (hide value a) (hide value e) = p.text a e := by
        cases p with
        | words t => rfl
        | actual => exact if_neg (by simpa [MessagePart.isSlot, MessagePart.text] using filled)
        | expected => exact if_neg (by simpa [MessagePart.isSlot, MessagePart.text] using filled)
      rw [kept]
      exact Text.replaceChars_append_of_not_prefix
        (not_prefix_of_showsOnly filled h)

private theorem replace_fill {w : Wording} (hvalue : value ≠ "") (h : w.ShowsOnly a e value) :
    Text.replace (w.fill a e) value maskText = w.fill (hide value a) (hide value e) := by
  have some : ¬ value.isEmpty = true := by simpa using hvalue
  rw [Text.replace, if_neg some, replaceChars_fill hvalue h, String.ofList_toList]

/-- The texts of two operands show in a message in their slots alone: that of the actual value in
the message as it is, that of the expected value when the actual one is hidden. -/
structure Clear (w : Wording) (a e : String) : Prop where
  actual_ne : a ≠ ""
  expected_ne : e ≠ ""
  actual : w.ShowsOnly a e a
  expected : w.ShowsOnly maskText (hide a e) e

theorem hideValues_fill {w : Wording} {x y : Json} (h : w.Clear x.plainText y.plainText) :
    Assertion.hideValues (w.fill x.plainText y.plainText) [x, y] = w.fill maskText maskText := by
  have first : hide x.plainText x.plainText = maskText := if_pos rfl
  have hidden : hide y.plainText maskText = maskText := by
    unfold hide
    split
    · rfl
    · rfl
  -- Equal texts are both gone after the first replacement; others go one by one.
  have last : hide y.plainText (hide x.plainText y.plainText) = maskText := by
    by_cases equal : y.plainText = x.plainText
    · rw [hide.eq_def x.plainText, if_pos equal, hidden]
    · rw [hide.eq_def x.plainText, if_neg equal, hide, if_pos rfl]
  simp only [Assertion.hideValues, List.foldl_cons, List.foldl_nil]
  rw [replace_fill h.actual_ne h.actual, first, replace_fill h.expected_ne h.expected, hidden, last]

end Wording

end Assay
