/- digest: The tables of the report: behind each head there is one line for each suite, or for each
   step of the case, and a line has six borders and one more for each pipe of the name behind an odd
   number of backslashes. -/

import Mathlib.Algebra.GroupWithZero.Nat
import Mathlib.Data.List.Forall2
import Assay.Proofs.Report.Lines

set_option autoImplicit false
set_option relaxedAutoImplicit false

namespace Assay

namespace Markdown

/-- The number of pipes in characters behind `slashes` backslashes that have an odd number of
backslashes right before them, or an even number. -/
def pipes (odd : Bool) (slashes : Nat) : List Char → Nat
  | [] => 0
  | c :: rest =>
    if c = '\\' then pipes odd (slashes + 1) rest
    else (if c = '|' ∧ (slashes % 2 == 1) = odd then 1 else 0) + pipes odd 0 rest

/-- The number of borders of cells in a line: a pipe is one unless it stands behind an odd number of
backslashes. -/
def borders (line : String) : Nat := pipes false 0 line.toList

/-- The number of pipes in a text that stand behind an odd number of backslashes. -/
def strays (text : String) : Nat := pipes true 0 text.toList

private theorem pipes_of_not_mem {cs : List Char} (h : '|' ∉ cs) (odd : Bool) (slashes : Nat) :
    pipes odd slashes cs = 0 := by
  induction cs generalizing slashes with
  | nil => rfl
  | cons c rest ih =>
    have later (n : Nat) := ih (fun inside => h (List.mem_cons_of_mem c inside)) n
    have other : c ≠ '|' := fun equal => h (equal ▸ List.mem_cons_self)
    simp [pipes, later, other]

private theorem pipes_blank (odd : Bool) (slashes : Nat) (cs more : List Char) :
    pipes odd slashes (cs ++ ' ' :: more) = pipes odd slashes cs + pipes odd 0 more := by
  induction cs generalizing slashes with
  | nil => simp [pipes]
  | cons c rest ih =>
    rw [List.cons_append, pipes, pipes]
    split
    · exact ih (slashes + 1)
    · rw [ih 0, Nat.add_assoc]

private theorem pipes_escapeChar (slashes : Nat) (cs : List Char) :
    pipes false slashes (cs.flatMap escapeChar) = pipes true slashes cs := by
  induction cs generalizing slashes with
  | nil => rfl
  | cons c rest ih =>
    have later := ih (slashes + 1)
    have fresh := ih 0
    rw [List.flatMap_cons]
    by_cases pipe : c = '|'
    · subst pipe
      have turned : (slashes + 1) % 2 = 0 ↔ slashes % 2 = 1 := by omega
      simp [escapeChar, pipes, fresh, turned]
    · by_cases broken : c = '\n'
      · subst broken
        simp [escapeChar, pipes, fresh]
      · have same : escapeChar c = [c] := escapeChar.eq_3 c pipe broken
        simp [same, pipes, pipe, later, fresh]

private theorem borders_escape (text : String) : borders (escape text) = strays text := by
  rw [borders, toList_escape, pipes_escapeChar, strays]

private theorem borders_of_not_mem {text : String} (h : '|' ∉ text.toList) : borders text = 0 :=
  pipes_of_not_mem h false 0

private theorem pipes_join {cells : List String} (some : cells ≠ []) :
    pipes false 0 ((Text.join " | " cells).toList ++ [' ', '|']) = cells.length + (cells.map borders).sum := by
  induction cells with
  | nil => exact absurd rfl some
  | cons cell rest ih =>
    cases rest with
    | nil =>
      rw [Text.join, pipes_blank]
      simp [pipes, borders, Nat.add_comm]
    | cons next others =>
      have chars : (Text.join " | " (cell :: next :: others)).toList ++ [' ', '|'] =
          cell.toList ++ ' ' :: ('|' :: ' ' :: ((Text.join " | " (next :: others)).toList ++ [' ', '|'])) := by
        simp [Text.join, String.toList_append]
      have later := ih (by simp)
      rw [chars, pipes_blank, ← borders]
      simp only [List.length_cons, List.map_cons, List.sum_cons] at later ⊢
      simp [pipes, later]
      omega

private theorem borders_row {cells : List String} (some : cells ≠ []) :
    borders (row cells) = cells.length + 1 + (cells.map borders).sum := by
  have chars : (row cells).toList = '|' :: ' ' :: ((Text.join " | " cells).toList ++ [' ', '|']) := by
    simp [row, String.toList_append]
  rw [borders, chars]
  simp [pipes, pipes_join some]
  omega

private theorem borders_toString (n : Nat) : borders (toString n) = 0 :=
  borders_of_not_mem fun inside => absurd (Text.isDigit_of_mem_toString inside) (by decide)

private theorem borders_duration (n : Nat) : borders (duration n) = 0 := by
  refine borders_of_not_mem ?_
  rw [duration, String.toList_append, List.mem_append]
  rintro (number | unit)
  · exact absurd (Text.isDigit_of_mem_toString number) (by decide)
  · exact absurd unit (by decide)

private theorem borders_icon (success : Bool) : borders (icon success) = 0 := by
  cases success <;> exact borders_of_not_mem (by decide)

private theorem borders_suiteRow (s : SuiteResult) : borders (suiteRow s) = 6 + strays s.name := by
  rw [suiteRow, borders_row (by simp)]
  simp only [List.map_cons, List.map_nil, List.sum_cons, List.sum_nil, borders_escape, borders_toString,
    borders_duration, borders_icon]
  simp

private theorem borders_stepRow {r : StepResult} (kind : '|' ∉ r.kind.toList) (place : Nat) :
    borders (stepRow place r) = 6 + strays r.name := by
  rw [stepRow, borders_row (by simp)]
  simp only [List.map_cons, List.map_nil, List.sum_cons, List.sum_nil, borders_escape, borders_toString,
    borders_duration, borders_icon, borders_of_not_mem kind]
  simp

private theorem borders_stepRows (steps : List StepResult) (kinds : ∀ r ∈ steps, '|' ∉ r.kind.toList) (place : Nat) :
    List.Forall₂ (fun r line => borders line = 6 + strays r.name) steps (stepRows place steps) := by
  induction steps generalizing place with
  | nil => exact .nil
  | cons r rest ih =>
    refine .cons (borders_stepRow (kinds r List.mem_cons_self) place) ?_
    exact ih (fun other inside => kinds other (List.mem_cons_of_mem r inside)) (place + 1)

/-- The table of the steps of a case, with the empty line that ends it. -/
def stepTable (c : CaseResult) : List String :=
  if c.steps.isEmpty then [] else stepHead ++ stepRows 1 c.steps ++ [""]

private theorem exists_stepLines (c : CaseResult) : ∃ more, stepLines c = stepTable c ++ more := by
  unfold stepLines stepTable
  split
  · exact ⟨[], rfl⟩
  · split
    · exact ⟨(c.steps.filter (!·.success)).flatMap failureLines, by simp⟩
    · exact ⟨["_" ++ toString c.skipped ++ " step(s) skipped_", ""] ++
        (c.steps.filter (!·.success)).flatMap failureLines, by simp⟩

private theorem exists_caseLines (c : CaseResult) : ∃ before after, caseLines c = before ++ stepTable c ++ after := by
  obtain ⟨more, steps⟩ := exists_stepLines c
  refine ⟨["### " ++ icon c.success ++ " " ++ escape c.title ++ " (" ++ duration c.milliseconds ++ ")", ""] ++
    errorLines c.error, more, ?_⟩
  rw [caseLines, steps, List.append_assoc _ _ more]

private theorem suiteRow_mem_render {s : SuiteResult} {results : List SuiteResult} (h : s ∈ results) (time : Instant) :
    suiteRow s ∈ Text.split '\n' (render time results) := by
  obtain ⟨opening, intro, whole⟩ := exists_split_render time results
  have row : suiteRow s ∈ results.map suiteRow := List.mem_map_of_mem h
  simp only [whole, List.mem_append, row, true_or, or_true]

private theorem printed_stepTable {c : CaseResult} (kinds : ∀ r ∈ c.steps, Text.Unbroken r.kind) :
    printed (stepTable c) = stepTable c := by
  have rows : ∀ line ∈ stepRows 1 c.steps, Text.Unbroken line := by
    intro line inside
    obtain ⟨n, r, hr, rfl⟩ := exists_of_mem_stepRows inside
    exact unbroken_stepRow (kinds r hr) n
  have head : printed stepHead = stepHead := printed_of_unbroken (by decide)
  have last : printed [""] = [""] := printed_of_unbroken (by decide)
  unfold stepTable
  split
  · rfl
  · rw [printed_append, printed_append, head, printed_of_unbroken rows, last]

/-- Where the kinds of steps have neither pipes nor line breaks, the tables of a report are whole:
behind the head of the first there is one line for each suite and then an empty one, and behind each
other head one line for each step of its case and then an empty one. A line has a border at each end
of its five cells, and one more for each pipe of the name that stands behind an odd number of
backslashes. -/
theorem render_tables (time : Instant) (results : List SuiteResult)
    (kinds : ∀ s ∈ results, ∀ c ∈ s.cases, ∀ r ∈ c.steps, '|' ∉ r.kind.toList ∧ Text.Unbroken r.kind) :
    (∃ (opening : List String) (intro : SuiteResult → List String) (before after : CaseResult → List String),
      Text.split '\n' (render time results) = opening ++ (suiteHead ++ results.map suiteRow ++ [""]) ++
        (results.flatMap fun s => intro s ++ s.cases.flatMap fun c => before c ++ stepTable c ++ after c) ++
        [""]) ∧
    (∀ s ∈ results, borders (suiteRow s) = 6 + strays s.name) ∧
    ∀ s ∈ results, ∀ c ∈ s.cases,
      List.Forall₂ (fun r line => borders line = 6 + strays r.name) c.steps (stepRows 1 c.steps) := by
  refine ⟨?_, fun s _ => borders_suiteRow s, fun s hs c hc => ?_⟩
  · choose before after cases using exists_caseLines
    obtain ⟨opening, intro, whole⟩ := exists_split_render time results
    refine ⟨opening ++ [totals results, ""], intro, fun c => printed (before c), fun c => printed (after c), ?_⟩
    rw [whole]
    refine congrArg (_ ++ · ++ [""]) (List.flatMap_congr fun s hs => ?_)
    refine congrArg (intro s ++ ·) (List.flatMap_congr fun c hc => ?_)
    rw [cases, printed_append, printed_append, printed_stepTable fun r hr => (kinds s hs c hc r hr).2]
  · exact borders_stepRows c.steps (fun r hr => (kinds s hs c hc r hr).1) 1

def pipedCase : CaseResult :=
  { (default : CaseResult) with
    steps := [{ (default : StepResult) with name := "\\\\|\n", kind := "wait" }] }

/-- A suite and its only step, with pipes and line breaks in their names. -/
def pipedResult : SuiteResult :=
  { (default : SuiteResult) with name := "a|b\n| c |", cases := [pipedCase] }

theorem pipedResult_tables :
    (∃ (opening : List String) (intro : SuiteResult → List String) (before after : CaseResult → List String),
      Text.split '\n' (render default [pipedResult]) =
        opening ++ (suiteHead ++ ["| a\\|b \\| c \\| | 0 | 1 | 0 ms | ❌ |"] ++ [""]) ++
        ([pipedResult].flatMap fun s => intro s ++ s.cases.flatMap fun c => before c ++ stepTable c ++ after c) ++
        [""]) ∧
    borders (suiteRow pipedResult) = 6 ∧
    stepRows 1 pipedCase.steps = ["| 1 | \\\\\\|  | wait | ❌ | 0 ms |"] ∧
      borders "| 1 | \\\\\\|  | wait | ❌ | 0 ms |" = 6 := by
  have kinds : ∀ s ∈ [pipedResult], ∀ c ∈ s.cases, ∀ r ∈ c.steps, '|' ∉ r.kind.toList ∧ Text.Unbroken r.kind := by
    decide +kernel
  have row : suiteRow pipedResult = "| a\\|b \\| c \\| | 0 | 1 | 0 ms | ❌ |" := by decide +kernel
  have step : stepRows 1 pipedCase.steps = ["| 1 | \\\\\\|  | wait | ❌ | 0 ms |"] := by decide +kernel
  obtain ⟨table, suites, steps⟩ := render_tables default [pipedResult] kinds
  rw [List.map_singleton, row] at table
  have bordered := steps pipedResult List.mem_cons_self pipedCase List.mem_cons_self
  rw [step] at bordered
  exact ⟨table, suites pipedResult List.mem_cons_self, step, (List.forall₂_cons.mp bordered).1⟩

def slashedResult : SuiteResult := { (default : SuiteResult) with name := "a\\|b" }

/-- The pipe is a border of the row in the report, which has one cell too many. -/
theorem slashedResult_row : suiteRow slashedResult ∈ Text.split '\n' (render default [slashedResult]) ∧
    suiteRow slashedResult = "| a\\\\|b | 0 | 0 | 0 ms | ❌ |" ∧ borders (suiteRow slashedResult) = 7 :=
  ⟨suiteRow_mem_render List.mem_cons_self default, by decide +kernel, by decide +kernel⟩

end Markdown

end Assay
