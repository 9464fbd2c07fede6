/- digest: The pieces of a text, written one after another, are the text. Literals stand apart from
   each other and are not empty, and each token holds a reference whose braces are balanced. -/

import Assay.Token.Scan
import Mathlib.Data.List.Chain

set_option autoImplicit false
set_option relaxedAutoImplicit false

namespace Assay.Token

/-- The double braces in characters, read from the left: whether each opens. -/
def braces : List Char → List Bool
  | '{' :: '{' :: rest => true :: braces rest
  | '}' :: '}' :: rest => false :: braces rest
  | _ :: rest => braces rest
  | [] => []

/-- From the left there are never more double braces that close than ones that open and `depth`
besides, and exactly as many in the end. -/
def Settles (depth : Nat) (marks : List Bool) : Prop :=
  (∀ k, (marks.take k).count false ≤ (marks.take k).count true + depth) ∧
    marks.count false = marks.count true + depth

/-- The double braces in characters open and close each other. -/
def Balanced (cs : List Char) : Prop := Settles 0 (braces cs)

private theorem settles_nil : Settles 0 [] := ⟨by simp, rfl⟩

private theorem Settles.opens {depth : Nat} {marks : List Bool} (h : Settles (depth + 1) marks) :
    Settles depth (true :: marks) := by
  obtain ⟨never, total⟩ := h
  refine ⟨fun k => ?_, ?_⟩
  · cases k with
    | zero => simp
    | succ k =>
      have := never k
      rw [List.take_succ_cons, List.count_cons_of_ne (by decide), List.count_cons_self]
      omega
  · rw [List.count_cons_of_ne (by decide), List.count_cons_self]
    omega

private theorem Settles.closes {depth : Nat} {marks : List Bool} (h : Settles depth marks) :
    Settles (depth + 1) (false :: marks) := by
  obtain ⟨never, total⟩ := h
  refine ⟨fun k => ?_, ?_⟩
  · cases k with
    | zero => simp
    | succ k =>
      have := never k
      rw [List.take_succ_cons, List.count_cons_self, List.count_cons_of_ne (by decide)]
      omega
  · rw [List.count_cons_self, List.count_cons_of_ne (by decide)]
    omega

theorem closing?_eq_append {depth : Nat} {cs inner after : List Char}
    (h : closing? depth cs = some (inner, after)) : cs = inner ++ '}' :: '}' :: after := by
  fun_induction closing? depth cs generalizing inner after with
  | case1 depth rest ih =>
    obtain ⟨r, found, pair⟩ := Option.map_eq_some_iff.mp h
    cases pair
    rw [ih found]
    rfl
  | case2 rest =>
    cases h
    rfl
  | case3 rest depth ih =>
    obtain ⟨r, found, pair⟩ := Option.map_eq_some_iff.mp h
    cases pair
    rw [ih found]
    rfl
  | case4 depth c rest _ _ ih =>
    obtain ⟨r, found, pair⟩ := Option.map_eq_some_iff.mp h
    cases pair
    rw [ih found]
    rfl
  | case5 => cases h

private theorem settles_of_closing? {depth : Nat} {cs inner after : List Char}
    (h : closing? depth cs = some (inner, after)) : Settles depth (braces inner) := by
  fun_induction closing? depth cs generalizing inner after with
  | case1 depth rest ih =>
    obtain ⟨r, found, pair⟩ := Option.map_eq_some_iff.mp h
    cases pair
    exact (ih found).opens
  | case2 rest =>
    cases h
    exact settles_nil
  | case3 rest depth ih =>
    obtain ⟨r, found, pair⟩ := Option.map_eq_some_iff.mp h
    cases pair
    exact (ih found).closes
  | case4 depth c rest unopened unclosed ih =>
    obtain ⟨⟨inner, after⟩, found, pair⟩ := Option.map_eq_some_iff.mp h
    cases pair
    -- What follows the character inside the expression follows it in the whole text.
    have whole := closing?_eq_append found
    rw [braces]
    · exact ih found
    · rintro tail rfl rfl
      exact unopened _ rfl whole
    · rintro tail rfl rfl
      exact unclosed _ rfl whole
  | case5 => cases h

def Piece.written : Piece → List Char
  | .literal cs => cs
  | .token e => '{' :: '{' :: e ++ ['}', '}']

/-- The pieces give the characters back, with literals apart and not empty, and with balanced
references. -/
structure Divides (ps : List Piece) (cs : List Char) : Prop where
  written : ps.flatMap Piece.written = cs
  apart : ps.IsChain fun a b => a.isToken = true ∨ b.isToken = true
  filled : .literal [] ∉ ps
  tokens : ∀ e, .token e ∈ ps → isReference e = true ∧ Balanced e

private theorem divides_literal (backwards : List Char) :
    Divides (withLiteral backwards []) backwards.reverse := by
  cases backwards with
  | nil => exact ⟨rfl, .nil, by simp [withLiteral], by simp [withLiteral]⟩
  | cons c rest =>
    refine ⟨?_, .singleton _, by simp [withLiteral], by simp [withLiteral]⟩
    simp [withLiteral, Piece.written]

private theorem Divides.token {ps : List Piece} {e after : List Char} (h : Divides ps after)
    (reference : isReference e = true) (balanced : Balanced e) :
    Divides (.token e :: ps) ('{' :: '{' :: e ++ '}' :: '}' :: after) where
  written := by simp [Piece.written, h.written]
  apart := List.isChain_cons.mpr ⟨fun _ _ => .inl rfl, h.apart⟩
  filled := by simp [h.filled]
  tokens f member := by
    rcases List.mem_cons.mp member with same | later
    · cases same
      exact ⟨reference, balanced⟩
    · exact h.tokens f later

private theorem Divides.literal {ps : List Piece} {e front after : List Char}
    (h : Divides (.token e :: ps) after)
    (filled : front ≠ []) : Divides (.literal front :: .token e :: ps) (front ++ after) where
  written := by rw [List.flatMap_cons, h.written]; rfl
  apart := List.isChain_cons_cons.mpr ⟨.inr rfl, h.apart⟩
  filled member := by
    rcases List.mem_cons.mp member with same | later
    · cases same
      exact filled rfl
    · exact h.filled later
  tokens f member := by
    rcases List.mem_cons.mp member with same | later
    · cases same
    · exact h.tokens f later

private theorem Divides.withLiteral {ps : List Piece} {e after : List Char}
    (h : Divides (.token e :: ps) after)
    (backwards : List Char) :
    Divides (withLiteral backwards (.token e :: ps)) (backwards.reverse ++ after) := by
  cases backwards with
  | nil => exact h
  | cons c rest => exact h.literal (by simp)

theorem divides_pieces (backwards cs : List Char) :
    Divides (pieces backwards cs) (backwards.reverse ++ cs) := by
  fun_induction pieces backwards cs with
  | case1 backwards =>
    rw [List.append_nil]
    exact divides_literal backwards
  | case2 backwards c =>
    have := divides_literal (c :: backwards)
    rwa [List.reverse_cons] at this
  | case3 backwards c d rest opened unclosed =>
    have := divides_literal (rest.reverse ++ d :: c :: backwards)
    simpa using this
  | case4 backwards c d rest opened e after found reference ih =>
    obtain ⟨rfl, rfl⟩ := opened
    rw [closing?_eq_append found]
    exact (ih.token reference (settles_of_closing? found)).withLiteral backwards
  | case5 backwards c d rest opened e after found reference ih => simpa using ih
  | case6 backwards c d rest closed ih => simpa using ih

end Assay.Token
