/- digest: The lines of a report as a text: each line that is printed is one of them, or several
   where what was printed in it has line breaks. -/

import Mathlib.Data.List.Basic
import Assay.Proofs.Number.Whole
import Assay.Report.Markdown

set_option autoImplicit false
set_option relaxedAutoImplicit false

namespace Assay

namespace Text

private theorem splitChars_eq_splitOn (mark : Char) (cs : List Char) :
    splitChars mark cs = cs.splitOn mark := by
  induction cs with
  | nil => rfl
  | cons c rest ih =>
    rw [List.splitOn] at ih ⊢
    rw [splitChars, ih, List.splitOnP_cons_eq_if_modifyHead]
    by_cases same : c = mark
    · rw [if_pos same, if_pos (beq_iff_eq.mpr same)]
    · rw [if_neg same, if_neg fun equal => same (beq_iff_eq.mp equal)]
      have some : List.splitOnP (· == mark) rest ≠ [] := List.splitOn_ne_nil mark rest
      cases parts : List.splitOnP (· == mark) rest with
      | nil => exact absurd parts some
      | cons head tail => rfl

theorem split_of_not_mem {mark : Char} {text : String} (h : mark ∉ text.toList) :
    split mark text = [text] := by
  rw [split, splitChars_eq_splitOn, List.splitOn_eq_singleton h, List.map_singleton, String.ofList_toList]

private theorem split_line (line following : String) :
    split '\n' (line ++ "\n" ++ following) = split '\n' line ++ split '\n' following := by
  have chars : (line ++ "\n" ++ following).toList = line.toList ++ '\n' :: following.toList := by
    simp [String.toList_append]
  rw [split, chars, splitChars_eq_splitOn, List.splitOn_append_cons_self, List.map_append, split, split,
    splitChars_eq_splitOn, splitChars_eq_splitOn]

private theorem mem_join {c : Char} {between : String} {parts : List String}
    (h : c ∈ (join between parts).toList) : c ∈ between.toList ∨ ∃ part ∈ parts, c ∈ part.toList := by
  induction parts with
  | nil => simp [join] at h
  | cons part rest ih =>
    cases rest with
    | nil => exact .inr ⟨part, List.mem_singleton_self part, h⟩
    | cons next others =>
      rw [join, String.toList_append, String.toList_append, List.mem_append, List.mem_append] at h
      · rcases h with (own | gap) | later
        · exact .inr ⟨part, List.mem_cons_self, own⟩
        · exact .inl gap
        · rcases ih later with gap | ⟨other, inside, hc⟩
          · exact .inl gap
          · exact .inr ⟨other, List.mem_cons_of_mem part inside, hc⟩
      · simp

theorem isDigit_of_mem_toString {n : Nat} {c : Char} (h : c ∈ (toString n).toList) :
    isDigit c = true := by
  rw [Nat.toString_eq_ofList_toDigits, String.toList_ofList] at h
  exact isDigit_of_mem_toDigits h

/-- A text without line breaks. -/
def Unbroken (text : String) : Prop := '\n' ∉ text.toList

instance : DecidablePred Unbroken := fun text => inferInstanceAs (Decidable ('\n' ∉ text.toList))

theorem Unbroken.append {text more : String} (h : Unbroken text) (hmore : Unbroken more) :
    Unbroken (text ++ more) := by
  rw [Unbroken, String.toList_append, List.mem_append]
  exact fun inside => inside.elim h hmore

theorem unbroken_toString (n : Nat) : Unbroken (toString n) := fun inside =>
  absurd (isDigit_of_mem_toString inside) (by decide)

private theorem unbroken_join {between : String} {parts : List String} (gap : Unbroken between)
    (h : ∀ part ∈ parts, Unbroken part) : Unbroken (join between parts) := by
  intro inside
  rcases mem_join inside with own | ⟨part, hpart, hc⟩
  · exact gap own
  · exact h part hpart hc

end Text

namespace Markdown

/-- The lines of text that printed lines come to. -/
def printed (ls : List String) : List String := ls.flatMap (Text.split '\n')

@[simp] theorem printed_nil : printed [] = [] := rfl

@[simp] theorem printed_cons (line : String) (ls : List String) :
    printed (line :: ls) = Text.split '\n' line ++ printed ls := rfl

@[simp] theorem printed_append (ls more : List String) :
    printed (ls ++ more) = printed ls ++ printed more :=
  List.flatMap_append

theorem printed_flatMap {α : Type} (l : List α) (f : α → List String) :
    printed (l.flatMap f) = l.flatMap fun a => printed (f a) :=
  List.flatMap_assoc

theorem printed_of_unbroken {ls : List String} (h : ∀ line ∈ ls, Text.Unbroken line) :
    printed ls = ls := by
  induction ls with
  | nil => rfl
  | cons line rest ih =>
    rw [printed_cons, Text.split_of_not_mem (h line List.mem_cons_self),
      ih fun other inside => h other (List.mem_cons_of_mem line inside)]
    rfl

private theorem split_join (ls : List String) :
    Text.split '\n' (String.join (ls.map (· ++ "\n"))) = printed ls ++ [""] := by
  induction ls with
  | nil => rfl
  | cons line rest ih =>
    have first : String.join ((line :: rest).map (· ++ "\n")) =
        line ++ "\n" ++ String.join (rest.map (· ++ "\n")) := by
      rw [List.map_cons, String.join_cons]
    rw [first, Text.split_line, ih, printed_cons, List.append_assoc]

private theorem split_render (time : Instant) (results : List SuiteResult) :
    Text.split '\n' (render time results) = printed (lines time results) ++ [""] :=
  split_join _

theorem toList_escape (text : String) : (escape text).toList = text.toList.flatMap escapeChar := by
  rw [escape, String.toList_ofList]

theorem unbroken_escape (text : String) : Text.Unbroken (escape text) := by
  rw [Text.Unbroken, toList_escape, List.mem_flatMap]
  rintro ⟨c, -, inside⟩
  unfold escapeChar at inside
  split at inside
  · simp at inside
  · simp at inside
  · rename_i other
    exact other (List.mem_singleton.mp inside).symm

theorem unbroken_icon (success : Bool) : Text.Unbroken (icon success) := by cases success <;> decide

theorem unbroken_duration (n : Nat) : Text.Unbroken (duration n) :=
  (Text.unbroken_toString n).append (by decide)

private theorem unbroken_row {cells : List String} (h : ∀ cell ∈ cells, Text.Unbroken cell) :
    Text.Unbroken (row cells) :=
  (Text.Unbroken.append (by decide) (Text.unbroken_join (by decide) h)).append (by decide)

private theorem unbroken_suiteRow (s : SuiteResult) : Text.Unbroken (suiteRow s) := by
  refine unbroken_row ?_
  simp only [List.forall_mem_cons]
  exact ⟨unbroken_escape _, Text.unbroken_toString _, Text.unbroken_toString _, unbroken_duration _,
    unbroken_icon _, List.forall_mem_nil _⟩

theorem unbroken_stepRow {r : StepResult} (kind : Text.Unbroken r.kind) (place : Nat) :
    Text.Unbroken (stepRow place r) := by
  refine unbroken_row ?_
  simp only [List.forall_mem_cons]
  exact ⟨Text.unbroken_toString _, unbroken_escape _, kind, unbroken_icon _, unbroken_duration _,
    List.forall_mem_nil _⟩

theorem exists_of_mem_stepRows {place : Nat} {steps : List StepResult} {line : String}
    (h : line ∈ stepRows place steps) : ∃ n, ∃ r ∈ steps, line = stepRow n r := by
  induction steps generalizing place with
  | nil => cases h
  | cons r rest ih =>
    rcases List.mem_cons.mp h with rfl | later
    · exact ⟨place, r, List.mem_cons_self, rfl⟩
    · obtain ⟨n, other, inside, equal⟩ := ih later
      exact ⟨n, other, List.mem_cons_of_mem r inside, equal⟩

private theorem printed_suiteTable (results : List SuiteResult) :
    printed (suiteHead ++ results.map suiteRow ++ [""]) = suiteHead ++ results.map suiteRow ++ [""] := by
  have rows : ∀ line ∈ results.map suiteRow, Text.Unbroken line := by
    intro line inside
    obtain ⟨s, -, rfl⟩ := List.mem_map.mp inside
    exact unbroken_suiteRow s
  have head : printed suiteHead = suiteHead := printed_of_unbroken (by decide)
  have last : printed [""] = [""] := printed_of_unbroken (by decide)
  rw [printed_append, printed_append, head, printed_of_unbroken rows, last]

private theorem printed_totals (results : List SuiteResult) :
    printed [totals results, ""] = [totals results, ""] := by
  have whole : Text.Unbroken (totals results) := by
    refine Text.Unbroken.append (Text.Unbroken.append ?_ (Text.unbroken_toString _)) (by decide)
    refine Text.Unbroken.append (Text.Unbroken.append ?_ (Text.unbroken_toString _)) (by decide)
    exact Text.Unbroken.append (Text.Unbroken.append (by decide) (Text.unbroken_toString _)) (by decide)
  refine printed_of_unbroken ?_
  simp only [List.forall_mem_cons]
  exact ⟨whole, by decide, List.forall_mem_nil _⟩

private theorem exists_suiteLines : ∃ intro : SuiteResult → List String,
    ∀ s, suiteLines s = intro s ++ s.cases.flatMap caseLines :=
  ⟨_, fun _ => rfl⟩

/-- The lines of a report: the totals, the table of suites, and the sections of suites with their
cases. -/
theorem exists_split_render (time : Instant) (results : List SuiteResult) :
    ∃ (opening : List String) (intro : SuiteResult → List String), Text.split '\n' (render time results) =
      opening ++ [totals results, ""] ++ (suiteHead ++ results.map suiteRow ++ [""]) ++
        (results.flatMap fun s => intro s ++ s.cases.flatMap fun c => printed (caseLines c)) ++ [""] := by
  obtain ⟨intro, suites⟩ := exists_suiteLines
  have sections : printed (results.flatMap suiteLines) =
      results.flatMap fun s => printed (intro s) ++ s.cases.flatMap fun c => printed (caseLines c) := by
    rw [printed_flatMap]
    refine List.flatMap_congr fun s _ => ?_
    rw [suites, printed_append, printed_flatMap]
  refine ⟨printed ["# JTest Report", "", "Generated at " ++ time.render, ""], fun s => printed (intro s), ?_⟩
  have whole : lines time results = ["# JTest Report", "", "Generated at " ++ time.render, ""] ++
      [totals results, ""] ++ (suiteHead ++ results.map suiteRow ++ [""]) ++ results.flatMap suiteLines := by
    simp [lines]
  rw [split_render, whole, printed_append, printed_append, printed_append, printed_totals, printed_suiteTable,
    sections]

end Markdown

end Assay
