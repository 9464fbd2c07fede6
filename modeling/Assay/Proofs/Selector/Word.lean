/- digest: Reading the words of an expression: which characters a name goes on with, and where the
   words before a place end, those after it are read as if they stood alone. -/

import Assay.Selector.Lexeme
import Assay.Text.Letter

set_option autoImplicit false
set_option relaxedAutoImplicit false

namespace Assay

namespace Text

/-- The white space above the first 128 codes, as closed ranges. -/
private def blankRanges : List (Nat × Nat) :=
  [(0x85, 0x85), (0xa0, 0xa0), (0x1680, 0x1680), (0x2000, 0x200a), (0x2028, 0x2029), (0x202f, 0x202f),
    (0x205f, 0x205f), (0x3000, 0x3000)]

private theorem exists_blankRange {c : Char} (h : isBlank c = true) (hc : 128 ≤ c.toNat) :
    ∃ b ∈ blankRanges, b.1 ≤ c.toNat ∧ c.toNat ≤ b.2 := by
  simp only [isBlank, Bool.or_eq_true, Bool.and_eq_true, decide_eq_true_eq, beq_iff_eq] at h
  simp only [blankRanges, List.mem_cons, List.not_mem_nil, or_false, exists_eq_or_imp, exists_eq_left]
  omega

private theorem CodeRanges.contains_of_apart {s : CodeRanges} {b : Nat × Nat} {c : Char}
    (apart : ∀ r ∈ s.ranges, b.2 < r.1 ∨ r.2 < b.1) (hc : b.1 ≤ c.toNat ∧ c.toNat ≤ b.2) :
    s.contains c = false := by
  simp only [contains, List.any_eq_false, Bool.and_eq_true, decide_eq_true_eq, not_and]
  intro r hr hle
  have := apart r hr
  omega

private theorem blankRanges_apart :
    ∀ b ∈ blankRanges, ∀ r ∈ Table.alphabetic.ranges ++ Table.numeric.ranges,
    b.2 < r.1 ∨ r.2 < b.1 := by
  have all : (Table.alphabetic.ranges ++ Table.numeric.ranges).all (fun r =>
      blankRanges.all fun b => Nat.blt b.2 r.1 || Nat.blt r.2 b.1) = true := by decide +kernel
  intro b hb r hr
  simpa using List.all_eq_true.mp (List.all_eq_true.mp all r hr) b hb

private theorem isAlphanumeric_of_isBlank {c : Char} (h : isBlank c = true) :
    isAlphanumeric c = false := by
  unfold isAlphanumeric
  split
  · rename_i small
    simp only [isBlank, Bool.or_eq_true, Bool.and_eq_true, decide_eq_true_eq, beq_iff_eq] at h
    simp only [isPlainAlphanumeric, isDigit, isPlainAlphabetic, Bool.or_eq_false_iff,
      Bool.and_eq_false_iff, decide_eq_false_iff_not, Char.le_def, UInt32.le_iff_toNat_le]
    change (¬ 48 ≤ c.toNat ∨ ¬ c.toNat ≤ 57) ∧ (¬ 97 ≤ c.toNat ∨ ¬ c.toNat ≤ 122) ∧
      (¬ 65 ≤ c.toNat ∨ ¬ c.toNat ≤ 90)
    omega
  · rename_i large
    obtain ⟨b, hb, hc⟩ := exists_blankRange h (by omega)
    have apart := blankRanges_apart b hb
    rw [CodeRanges.contains_of_apart (fun r hr => apart r (List.mem_append_left _ hr)) hc,
      CodeRanges.contains_of_apart (fun r hr => apart r (List.mem_append_right _ hr)) hc]
    rfl

private theorem isNameChar_of_isBlank {c : Char} (h : isBlank c = true) : isNameChar c = false := by
  simp only [isNameChar, isAlphanumeric_of_isBlank h, Bool.false_or, Bool.or_eq_false_iff,
    beq_eq_false_iff_ne]
  constructor
  · rintro rfl
    exact absurd h (by decide)
  · rintro rfl
    exact absurd h (by decide)

theorem isBlank_of_isNameChar {c : Char} (h : isNameChar c = true) : isBlank c = false := by
  cases hb : isBlank c with
  | false => rfl
  | true => simp [isNameChar_of_isBlank hb] at h

end Text

namespace Selector.Lexeme

open Text (isNameChar)

private theorem isNameChar_of_special :
    ∀ c ∈ ".*[]()@?,:=&|<>!$'\"".toList, isNameChar c = false := by
  have all : (".*[]()@?,:=&|<>!$'\"".toList.all fun c => !isNameChar c) = true := by decide +kernel
  intro c hc
  simpa using List.all_eq_true.mp all c hc

theorem ne_of_isNameChar {c d : Char} (h : isNameChar c = true)
    (hd : d ∈ ".*[]()@?,:=&|<>!$'\"".toList) : c ≠ d := by
  rintro rfl
  rw [isNameChar_of_special c hd] at h
  cases h

private theorem endsName_of_isNameChar {c : Char} (h : isNameChar c = true) :
    endsName c = false := by
  simp only [endsName, Text.isBlank_of_isNameChar h, Bool.or_false]
  rw [← Bool.not_eq_true, List.contains_iff_mem]
  intro inside
  have special : ".*[]()@?,:=&|<>!".toList ⊆ ".*[]()@?,:=&|<>!$'\"".toList := by decide
  exact ne_of_isNameChar h (special inside) rfl

private theorem isNamePart_of_isNameChar {c : Char} (h : isNameChar c = true) :
    isNamePart c = true := by
  simp [isNamePart, endsName_of_isNameChar h, ne_of_isNameChar h (d := '$') (by decide)]

/-- A text whose front ends a name: its first character does, or there is none. -/
def EndsName : List Char → Prop
  | [] => True
  | c :: _ => endsName c = true

instance : DecidablePred EndsName
  | [] => inferInstanceAs (Decidable True)
  | c :: _ => inferInstanceAs (Decidable (endsName c = true))

theorem EndsName.takeWhile_isNameChar {tail : List Char} (h : EndsName tail) :
    tail.takeWhile isNameChar = [] ∧ tail.dropWhile isNameChar = tail := by
  cases tail with
  | nil => exact ⟨rfl, rfl⟩
  | cons c rest =>
    have ends : endsName c = true := h
    cases hc : isNameChar c with
    | false => simp [hc]
    | true =>
      rw [endsName_of_isNameChar hc] at ends
      cases ends

private theorem next_dot (rest : List Char) : next '.' rest = some (.dot, rest) := rfl

private theorem next_openBracket (rest : List Char) :
    next '[' rest = some (.openBracket, rest) := rfl

private theorem next_closeBracket (rest : List Char) :
    next ']' rest = some (.closeBracket, rest) := rfl

private theorem next_star (rest : List Char) : next '*' rest = some (.star, rest) := rfl

private theorem next_root {rest : List Char} (h : EndsName rest) :
    next '$' rest = some (.root, rest) := by
  have none : rest.takeWhile (fun d => !endsName d) = [] := by
    cases rest with
    | nil => rfl
    | cons c rest =>
      have ends : endsName c = true := h
      simp [ends]
  simp [next, none]

private theorem next_of_isNameChar {c : Char} (h : isNameChar c = true) (rest : List Char) :
    next c rest = some (.name (String.ofList (c :: rest.takeWhile isNamePart)),
      rest.dropWhile isNamePart) := by
  have ne {d : Char} (hd : d ∈ ".*[]()@?,:=&|<>!$'\"".toList) : c ≠ d := ne_of_isNameChar h hd
  simp [next, Text.isBlank_of_isNameChar h, ne (d := '$') (by decide), ne (d := '.') (by decide),
    ne (d := '*') (by decide), ne (d := '[') (by decide), ne (d := ']') (by decide),
    ne (d := '(') (by decide), ne (d := ')') (by decide), ne (d := '@') (by decide),
    ne (d := '?') (by decide), ne (d := ',') (by decide), ne (d := ':') (by decide),
    ne (d := '\'') (by decide), ne (d := '"') (by decide), ne (d := '=') (by decide),
    ne (d := '>') (by decide), ne (d := '<') (by decide), ne (d := '&') (by decide),
    ne (d := '|') (by decide), ne (d := '!') (by decide)]

private theorem next_name {c : Char} {name tail : List Char}
    (hname : ∀ d ∈ c :: name, isNameChar d = true)
    (htail : EndsName tail) :
    next c (name ++ tail) = some (.name (String.ofList (c :: name)), tail) := by
  have parts : ∀ d ∈ name, isNamePart d = true :=
    fun d hd => isNamePart_of_isNameChar (hname d (List.mem_cons_of_mem _ hd))
  have stop : ∀ p : Char → Bool, p = isNamePart → tail.takeWhile p = [] ∧ tail.dropWhile p = tail := by
    rintro p rfl
    cases tail with
    | nil => exact ⟨rfl, rfl⟩
    | cons d rest =>
      have ends : endsName d = true := htail
      simp [isNamePart, ends]
  rw [next_of_isNameChar (hname c List.mem_cons_self), List.takeWhile_append_of_pos parts,
    List.dropWhile_append_of_pos parts, (stop _ rfl).1, (stop _ rfl).2, List.append_nil]

/-- What is left after a word, if there is one, is not longer than a text. -/
private def Within (text : List Char) (r : Option (Lexeme × List Char)) : Prop :=
  ∀ word after, r = some (word, after) → after.length ≤ text.length

section Within

variable {text : List Char}

private theorem within_none : Within text none := by
  intro word after equal
  cases equal

private theorem within_some {word : Lexeme} {after : List Char} (h : after.length ≤ text.length) :
    Within text (some (word, after)) := by
  intro w a equal
  cases equal
  exact h

private theorem within_dropWhile (word : Lexeme) (p : Char → Bool) :
    Within text (some (word, text.dropWhile p)) :=
  within_some (List.dropWhile_sublist p).length_le

private theorem within_ite {q : Prop} [Decidable q] {r s : Option (Lexeme × List Char)}
    (hr : Within text r) (hs : Within text s) : Within text (if q then r else s) := by
  split
  · exact hr
  · exact hs

private theorem within_follows (d : Char) (word : Lexeme)
    {otherwise : Option (Lexeme × List Char)} :
    Within text otherwise → Within text (match text with
      | e :: more => if e = d then some (word, more) else otherwise
      | [] => none) := by
  intro ho
  cases text with
  | nil => exact within_none
  | cons e more => exact within_ite (within_some (Nat.le_succ _)) ho

end Within

private theorem length_readQuoted {quote : Char} {cs inner after : List Char}
    (h : readQuoted quote cs = some (inner, after)) : after.length ≤ cs.length := by
  have shorter : (cs.dropWhile (· ≠ quote)).length ≤ cs.length := (List.dropWhile_sublist _).length_le
  unfold readQuoted at h
  dsimp only at h
  generalize (cs.takeWhile (· ≠ quote)).reverse = back at h
  split at h
  · cases h
  · rename_i d rest hrest
    rw [hrest, List.length_cons] at shorter
    split at h
    · have shorter' : (rest.dropWhile (· ≠ quote)).length ≤ rest.length :=
        (List.dropWhile_sublist _).length_le
      split at h
      · cases h
      · rename_i e after' hafter
        rw [hafter, List.length_cons] at shorter'
        cases h
        omega
    · cases h
      omega

private theorem within_next (c : Char) (rest : List Char) : Within rest (next c rest) := by
  have here (word : Lexeme) : Within rest (some (word, rest)) := within_some (Nat.le_refl _)
  unfold next
  refine within_ite ?_ ?_
  · split
    · exact here _
    · exact within_dropWhile _ _
  iterate 10 refine within_ite (here _) ?_
  refine within_ite ?_ ?_
  · intro word after equal
    obtain ⟨⟨inner, left⟩, hread, same⟩ := Option.map_eq_some_iff.mp equal
    cases same
    exact length_readQuoted hread
  refine within_ite (within_follows _ _ within_none) ?_
  refine within_ite (within_follows _ _ (here _)) ?_
  refine within_ite (within_follows _ _ (here _)) ?_
  iterate 3 refine within_ite (within_follows _ _ within_none) ?_
  exact within_ite (within_dropWhile _ _) (within_dropWhile _ _)

private theorem readAll_eq_ofText {fuel : Nat} {text : List Char} (h : text.length ≤ fuel) :
    readAll fuel text = ofText text := by
  suffices every : ∀ fuel more text, text.length ≤ fuel → text.length ≤ more →
      readAll fuel text = readAll more text from every fuel text.length text h (Nat.le_refl _)
  intro fuel
  induction fuel with
  | zero =>
    intro more text hfuel _
    obtain rfl : text = [] := List.length_eq_zero_iff.mp (Nat.le_zero.mp hfuel)
    cases more <;> rfl
  | succ fuel ih =>
    intro more text hfuel hmore
    cases text with
    | nil => cases more <;> rfl
    | cons c rest =>
      obtain ⟨more, rfl⟩ : ∃ m, more = m + 1 := ⟨more - 1, by simp only [List.length_cons] at hmore; omega⟩
      simp only [List.length_cons] at hfuel hmore
      simp only [readAll]
      split
      · rfl
      · rename_i word after hnext
        have shorter := within_next c rest word after hnext
        rw [ih more after (by omega) (by omega)]

private theorem ofText_cons {c : Char} {rest after : List Char} {word : Lexeme}
    (h : next c rest = some (word, after)) : ofText (c :: rest) = word :: ofText after := by
  have shorter := within_next c rest word after h
  rw [ofText, List.length_cons, readAll, h]
  simp only [readAll_eq_ofText shorter]

theorem ofText_root {tail : List Char} (h : EndsName tail) :
    ofText ('$' :: tail) = .root :: ofText tail := ofText_cons (next_root h)

theorem ofText_member {name tail : List Char} (hne : name ≠ [])
    (hname : ∀ d ∈ name, isNameChar d = true) (htail : EndsName tail) :
    ofText ('.' :: (name ++ tail)) = .dot :: .name (String.ofList name) :: ofText tail := by
  obtain ⟨c, name, rfl⟩ := List.exists_cons_of_ne_nil hne
  rw [ofText_cons (next_dot _), List.cons_append, ofText_cons (next_name hname htail)]

/-- A plain name between brackets, such as the digits of a position. -/
theorem ofText_item {name : List Char} (hne : name ≠ []) (hname : ∀ d ∈ name, isNameChar d = true)
    (tail : List Char) :
    ofText ('[' :: (name ++ ']' :: tail)) =
      .openBracket :: .name (String.ofList name) :: .closeBracket :: ofText tail := by
  obtain ⟨c, name, rfl⟩ := List.exists_cons_of_ne_nil hne
  have ends : EndsName (']' :: tail) := rfl
  rw [ofText_cons (next_openBracket _), List.cons_append, ofText_cons (next_name hname ends),
    ofText_cons (next_closeBracket _)]

theorem ofText_all (tail : List Char) :
    ofText ('[' :: '*' :: ']' :: tail) = .openBracket :: .star :: .closeBracket :: ofText tail := by
  rw [ofText_cons (next_openBracket _), ofText_cons (next_star _), ofText_cons (next_closeBracket _)]

end Selector.Lexeme

end Assay
