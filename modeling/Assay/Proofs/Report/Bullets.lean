/- digest: The assertions in the report: the section of a case has a line for each failed assertion
   at any depth of its steps, in their order, and has none where the case counts as passed. -/

import Assay.Proofs.Report.Masking
import Assay.Proofs.Step.Error

set_option autoImplicit false
set_option relaxedAutoImplicit false

namespace Assay

namespace StepResult

private theorem nodesOf_eq_flatMap (l : List StepResult) : nodesOf l = l.flatMap nodes := by
  induction l with
  | nil => rfl
  | cons r rest ih => rw [nodesOf, ih, List.flatMap_cons]

private theorem failedFindings_eq_flatMap (r : StepResult) :
    r.failedFindings = r.nodes.flatMap fun n => n.findings.filter (!·.success) := by
  induction r using inner_induction with
  | h r ih =>
    have nodes : r.nodes = r :: r.inner.flatMap StepResult.nodes := by
      cases r
      rw [StepResult.nodes, nodesOf_eq_flatMap]
    rw [failedFindings_eq, failedFindingsOf_eq_flatMap, List.flatMap_congr ih, nodes, List.flatMap_cons,
      List.flatMap_assoc]

private theorem Honest.failedFindings_eq_nil {r : StepResult} (h : r.Honest)
    (passed : r.success = true) :
    r.failedFindings = [] := by
  rw [failedFindings_eq_flatMap, List.flatMap_eq_nil_iff]
  intro n hn
  rw [List.filter_eq_nil_iff]
  intro f hf
  simp [(h r r.self_mem_nodes passed n hn).2 f hf]

end StepResult

/-- The failed assertions of the steps of a case and of all that lies inside them, each step's own
before those inside it. -/
def CaseResult.failed (c : CaseResult) : List Finding :=
  c.steps.flatMap fun r => r.nodes.flatMap fun n => n.findings.filter (!·.success)

/-- The texts of an assertion that are printed as they are have no line breaks. -/
structure Finding.Unbroken (f : Finding) : Prop where
  operator : Text.Unbroken f.operator
  expected : Text.Unbroken (f.display f.expected)
  actual : Text.Unbroken (f.display f.actual)

instance : DecidablePred Finding.Unbroken := fun f =>
  decidable_of_iff (Text.Unbroken f.operator ∧ Text.Unbroken (f.display f.expected) ∧
      Text.Unbroken (f.display f.actual))
    ⟨fun h => ⟨h.1, h.2.1, h.2.2⟩, fun h => ⟨h.operator, h.expected, h.actual⟩⟩

namespace Markdown

def bulletsAmong (ls : List String) : List String := ls.filter (Text.startsWith · "- `")

private theorem bulletsAmong_append (ls more : List String) :
    bulletsAmong (ls ++ more) = bulletsAmong ls ++ bulletsAmong more := List.filter_append ..

private theorem bulletsAmong_flatMap {α : Type} (l : List α) (f : α → List String) :
    bulletsAmong (l.flatMap f) = l.flatMap fun a => bulletsAmong (f a) := List.filter_flatMap ..

/-- A line that is printed as one and does not begin like that of an assertion. -/
structure Quiet (line : String) : Prop where
  unbroken : Text.Unbroken line
  other : Text.startsWith line "- `" = false

instance : DecidablePred Quiet := fun line =>
  decidable_of_iff (Text.Unbroken line ∧ Text.startsWith line "- `" = false)
    ⟨fun h => ⟨h.1, h.2⟩, fun h => ⟨h.unbroken, h.other⟩⟩

private theorem bulletsAmong_printed_of_quiet {ls : List String} (h : ∀ line ∈ ls, Quiet line) :
    bulletsAmong (printed ls) = [] := by
  rw [printed_of_unbroken fun line inside => (h line inside).unbroken, bulletsAmong, List.filter_eq_nil_iff]
  intro line inside
  simp [(h line inside).other]

private theorem startsWith_bullet (f : Finding) : Text.startsWith (bullet f) "- `" = true := by
  simp [Text.startsWith, bullet, String.toList_append]

private theorem unbroken_bullet {f : Finding} (h : f.Unbroken) : Text.Unbroken (bullet f) := by
  obtain ⟨operator, expected, actual⟩ := h
  have note (text : String) : Text.Unbroken (" (" ++ escape text ++ ")") :=
    (Text.Unbroken.append (by decide) (unbroken_escape text)).append (by decide)
  have reason (text : String) : Text.Unbroken (" - " ++ escape text) :=
    Text.Unbroken.append (by decide) (unbroken_escape text)
  unfold bullet
  refine Text.Unbroken.append (Text.Unbroken.append ?_ (by decide)) ?reason
  refine Text.Unbroken.append (Text.Unbroken.append ?_ (by decide)) actual
  refine Text.Unbroken.append (Text.Unbroken.append ?_ (by decide)) expected
  refine Text.Unbroken.append (Text.Unbroken.append (Text.Unbroken.append ?_ operator) (by decide)) ?note
  · decide
  case note =>
    cases f.description with
    | some text => exact note text
    | none => exact List.not_mem_nil
  case reason =>
    cases f.message with
    | some text => exact reason text
    | none => exact List.not_mem_nil

private theorem bulletsAmong_split_bullet {f : Finding} (h : f.Unbroken) :
    bulletsAmong (Text.split '\n' (bullet f)) = [bullet f] := by
  rw [Text.split_of_not_mem (unbroken_bullet h), bulletsAmong, List.filter_singleton, startsWith_bullet]
  rfl

private theorem quiet_heading (c : CaseResult) :
    Quiet ("### " ++ icon c.success ++ " " ++ escape c.title ++ " (" ++ duration c.milliseconds ++ ")") where
  unbroken := by
    refine Text.Unbroken.append (Text.Unbroken.append ?_ (unbroken_duration _)) (by decide)
    refine Text.Unbroken.append (Text.Unbroken.append ?_ (unbroken_escape _)) (by decide)
    exact Text.Unbroken.append (Text.Unbroken.append (by decide) (unbroken_icon _)) (by decide)
  other := by simp [Text.startsWith, List.isPrefixOf, String.toList_append]

private theorem quiet_errorLines (error : Option String) :
    ∀ line ∈ errorLines error, Quiet line := by
  cases error with
  | none => exact List.forall_mem_nil _
  | some e =>
    have told : Quiet ("> **Error:** " ++ escape e) :=
      ⟨Text.Unbroken.append (by decide) (unbroken_escape e),
        by simp [Text.startsWith, List.isPrefixOf, String.toList_append]⟩
    simp only [errorLines, List.forall_mem_cons]
    exact ⟨told, by decide, List.forall_mem_nil _⟩

private theorem quiet_row {cells : List String} (h : Text.Unbroken (row cells)) :
    Quiet (row cells) :=
  ⟨h, by simp [Text.startsWith, List.isPrefixOf, row, String.toList_append]⟩

private theorem quiet_skipped (n : Nat) : Quiet ("_" ++ toString n ++ " step(s) skipped_") where
  unbroken := (Text.Unbroken.append (by decide) (Text.unbroken_toString n)).append (by decide)
  other := by simp [Text.startsWith, List.isPrefixOf, String.toList_append]

private theorem unticked_escape {text : String} (h : Text.Unticked text) :
    Text.Unticked (escape text) := by
  rw [Text.Unticked, toList_escape]
  rw [Text.Unticked] at h
  cases chars : text.toList with
  | nil => simp
  | cons c rest =>
    rw [chars] at h
    have own : c ≠ '\x60' := by simpa using h
    rw [List.flatMap_cons, List.head?_append]
    unfold escapeChar
    split
    · simp
    · simp
    · simpa using own

private theorem quiet_error {text : String} (h : Text.Unticked text) :
    Quiet ("- " ++ escape text) where
  unbroken := Text.Unbroken.append (by decide) (unbroken_escape text)
  other := by
    have first := unticked_escape h
    rw [Text.Unticked] at first
    rw [Text.startsWith, String.toList_append]
    cases chars : (escape text).toList with
    | nil => rfl
    | cons c rest =>
      rw [chars] at first
      have own : c ≠ '\x60' := by simpa using first
      simp [List.isPrefixOf, own.symm]

private theorem quiet_log (line : String) : Quiet ("- log: " ++ escape line) where
  unbroken := Text.Unbroken.append (by decide) (unbroken_escape line)
  other := by simp [Text.startsWith, List.isPrefixOf, String.toList_append]

private theorem quiet_summary (name : String) :
    Quiet ("<details><summary>" ++ escape name ++ "</summary>") where
  unbroken := (Text.Unbroken.append (by decide) (unbroken_escape name)).append (by decide)
  other := by simp [Text.startsWith, List.isPrefixOf, String.toList_append]

private theorem bulletsAmong_failureLines {r : StepResult}
    (error : ∀ text, r.error = some text → Text.Unticked text) :
    bulletsAmong (printed (failureLines r)) =
      r.failedFindings.flatMap fun f => bulletsAmong (Text.split '\n' (bullet f)) := by
  have opening : bulletsAmong (printed ["<details><summary>" ++ escape r.name ++ "</summary>", ""]) = [] := by
    refine bulletsAmong_printed_of_quiet ?_
    simp only [List.forall_mem_cons]
    exact ⟨quiet_summary r.name, by decide, List.forall_mem_nil _⟩
  have told : ∀ text, r.error = some text → bulletsAmong (printed ["- " ++ escape text]) = [] := by
    intro text he
    exact bulletsAmong_printed_of_quiet (List.forall_mem_singleton.mpr (quiet_error (error text he)))
  have logs : bulletsAmong (printed (r.logs.map fun line => "- log: " ++ escape line)) = [] := by
    refine bulletsAmong_printed_of_quiet ?_
    rw [List.forall_mem_map]
    exact fun line _ => quiet_log line
  have closing : bulletsAmong (printed ["", "</details>", ""]) = [] :=
    bulletsAmong_printed_of_quiet (by decide)
  have bullets : bulletsAmong (printed (r.failedFindings.map bullet)) =
      r.failedFindings.flatMap fun f => bulletsAmong (Text.split '\n' (bullet f)) := by
    rw [printed, List.flatMap_map, bulletsAmong_flatMap]
  rw [failureLines]
  cases he : r.error with
  | none =>
    simp only [printed_append, bulletsAmong_append, opening, logs, closing, bullets, List.nil_append,
      List.append_nil]
  | some text =>
    simp only [printed_append, bulletsAmong_append, opening, told text he, logs, closing, bullets,
      List.nil_append, List.append_nil]

private theorem flatMap_filter_of_nil {α β : Type} {p : α → Bool} {f : α → List β} {l : List α}
    (h : ∀ a ∈ l, p a = false → f a = []) : (l.filter p).flatMap f = l.flatMap f := by
  induction l with
  | nil => rfl
  | cons a rest ih =>
    have later := ih fun b hb => h b (List.mem_cons_of_mem a hb)
    cases hp : p a with
    | true => rw [List.filter_cons_of_pos hp, List.flatMap_cons, List.flatMap_cons, later]
    | false =>
      rw [List.filter_cons_of_neg (by simp [hp]), List.flatMap_cons, h a List.mem_cons_self hp, later,
        List.nil_append]

private theorem bulletsAmong_caseLines {c : CaseResult} (honest : ∀ r ∈ c.steps, r.Honest)
    (kinds : ∀ r ∈ c.steps, Text.Unbroken r.kind)
    (errors : ∀ r ∈ c.steps, ∀ text, r.error = some text → Text.Unticked text) :
    bulletsAmong (printed (caseLines c)) =
      c.failed.flatMap fun f => bulletsAmong (Text.split '\n' (bullet f)) := by
  have opening : bulletsAmong (printed ["### " ++ icon c.success ++ " " ++ escape c.title ++ " (" ++
      duration c.milliseconds ++ ")", ""]) = [] := by
    refine bulletsAmong_printed_of_quiet ?_
    simp only [List.forall_mem_cons]
    exact ⟨quiet_heading c, by decide, List.forall_mem_nil _⟩
  have error : bulletsAmong (printed (errorLines c.error)) = [] :=
    bulletsAmong_printed_of_quiet (quiet_errorLines c.error)
  have rows : bulletsAmong (printed (stepRows 1 c.steps)) = [] := by
    refine bulletsAmong_printed_of_quiet fun line inside => ?_
    obtain ⟨n, r, hr, rfl⟩ := exists_of_mem_stepRows inside
    exact quiet_row (unbroken_stepRow (kinds r hr) n)
  have head : bulletsAmong (printed stepHead) = [] := bulletsAmong_printed_of_quiet (by decide)
  have skipped : bulletsAmong (printed ["", "_" ++ toString c.skipped ++ " step(s) skipped_"]) = [] := by
    refine bulletsAmong_printed_of_quiet ?_
    simp only [List.forall_mem_cons]
    exact ⟨by decide, quiet_skipped _, List.forall_mem_nil _⟩
  have blank : bulletsAmong (printed [""]) = [] := bulletsAmong_printed_of_quiet (by decide)
  -- The steps that are left out succeeded, so that no assertion below them failed.
  have failures : bulletsAmong (printed ((c.steps.filter (!·.success)).flatMap failureLines)) =
      c.failed.flatMap fun f => bulletsAmong (Text.split '\n' (bullet f)) := by
    rw [printed_flatMap, bulletsAmong_flatMap, flatMap_filter_of_nil, CaseResult.failed, List.flatMap_assoc]
    · refine List.flatMap_congr fun r hr => ?_
      rw [bulletsAmong_failureLines (errors r hr), StepResult.failedFindings_eq_flatMap]
    · intro r hr passed
      rw [bulletsAmong_failureLines (errors r hr), (honest r hr).failedFindings_eq_nil (by simpa using passed)]
      rfl
  rw [caseLines, stepLines]
  split
  · rename_i none
    have nothing : c.failed = [] := by rw [CaseResult.failed, List.isEmpty_iff.mp none]; rfl
    simp only [printed_append, bulletsAmong_append, opening, error, nothing]
    rfl
  · split
    · simp only [printed_append, bulletsAmong_append, opening, error, head, rows, blank, failures,
        List.nil_append, printed_nil]
      rfl
    · simp only [printed_append, bulletsAmong_append, opening, error, head, rows, skipped, blank, failures,
        List.nil_append]

end Markdown

/-- The result of a suite comes from a run of the suite, of its file, or of files in any order of
turns. -/
inductive SuiteResult.Produced : SuiteResult → Prop
  | run {runner : Runner} {suite : Suite} {folder : String} {w : Surroundings} {s t : RunState} {r : SuiteResult}
      (h : runner.run suite folder w s = (.ok r, t)) : Produced r
  | file {runner : Runner} {path : String} {w : Surroundings} {s t : RunState} {r : SuiteResult}
      (h : runner.runFile path w s = (.ok r, t)) : Produced r
  | played {runner : Runner} {paths : List String} {limit : Nat} {turns : List Turn} {w : Surroundings}
      {s t : RunState} {p : Pool} {r : SuiteResult}
      (h : runner.play (.ofFiles paths limit) turns w s = (.ok p, t)) (hr : r ∈ p.results) : Produced r

private theorem Pool.honest_ofFiles (paths : List String) (limit : Nat) :
    (Pool.ofFiles paths limit).Honest := by
  refine ⟨fun r hr => absurd hr List.not_mem_nil, fun run hrun => ?_⟩
  obtain ⟨path, -, rfl⟩ := List.mem_map.mp hrun
  exact trivial

private theorem SuiteResult.Produced.honest {r : SuiteResult} (h : r.Produced) : r.Honest := by
  cases h with
  | run h => exact Runner.gives_run_honest _ _ _ _ _ _ _ h
  | file h => exact Runner.gives_runFile_honest _ _ _ _ _ _ h
  | played h hr => exact (Runner.gives_play_honest _ (Pool.honest_ofFiles _ _) _ _ _ _ _ h).results _ hr

namespace SuiteResult

private theorem passedCases_eq (r : SuiteResult) : r.passedCases = r.cases.countP (·.success) :=
  (List.countP_eq_length_filter ..).symm

private theorem failedCases_eq (r : SuiteResult) : r.failedCases = r.cases.countP (!·.success) := by
  have all := List.length_eq_countP_add_countP (·.success) (l := r.cases)
  rw [failedCases, passedCases_eq, all]
  simp

end SuiteResult

namespace Markdown

private theorem caseCount_eq (results : List SuiteResult) :
    caseCount results = (results.flatMap (·.cases)).length := by
  induction results with
  | nil => rfl
  | cons r rest ih => rw [caseCount, List.foldr_cons, List.flatMap_cons, List.length_append, ← ih, caseCount]

private theorem passedCount_eq (results : List SuiteResult) :
    passedCount results = (results.flatMap (·.cases)).countP (·.success) := by
  induction results with
  | nil => rfl
  | cons r rest ih =>
    rw [passedCount, List.foldr_cons, List.flatMap_cons, List.countP_append, ← ih, passedCount, r.passedCases_eq]

private theorem bullet_of_masked {f : Finding} (h : f.isMasked = true) :
    ∃ note reason, ∀ actual expected,
    bullet { f with actual := actual, expected := expected } =
      "- `" ++ f.operator ++ "`" ++ note ++ ": expected `****`, actual `****`" ++ reason := by
  have written : ∃ note reason, bullet f = "- `" ++ f.operator ++ "`" ++ note ++
      ": expected `****`, actual `****`" ++ reason := by
    have hidden (v : Json) : f.display v = "****" := by
      rw [Finding.display, if_pos h]
      rfl
    have joined (rest : String) : ": expected `" ++ ("****" ++ ("`, actual `" ++ ("****" ++
        ("`" ++ rest)))) = ": expected `****`, actual `****`" ++ rest := by
      rw [← String.append_assoc, ← String.append_assoc, ← String.append_assoc, ← String.append_assoc]
      rfl
    rw [bullet, hidden, hidden]
    simp only [String.append_assoc, joined]
    exact ⟨_, _, rfl⟩
  obtain ⟨note, reason, shown⟩ := written
  refine ⟨note, reason, fun actual expected => ?_⟩
  have masked : Finding.isMasked { f with actual := actual, expected := expected } = true := h
  rw [← shown, ← bullet_redacted, Finding.redacted, if_pos masked, ← bullet_redacted f, Finding.redacted, if_pos h]

private theorem bulletsAmong_of_produced {s : SuiteResult} (h : s.Produced) {c : CaseResult}
    (hc : c ∈ s.cases)
    (kinds : ∀ r ∈ c.steps, Text.Unbroken r.kind ∧ Text.Unticked r.kind) :
    bulletsAmong (printed (caseLines c)) =
      c.failed.flatMap fun f => bulletsAmong (Text.split '\n' (bullet f)) := by
  obtain ⟨case, w, honest⟩ := h.honest.cases c hc
  refine bulletsAmong_caseLines honest.steps (fun r hr => (kinds r hr).1) fun r hr => ?_
  obtain ⟨step, -, comes⟩ := honest.origin r hr
  exact comes.unticked (kinds r hr).2

private theorem failed_of_success {s : SuiteResult} (h : s.Produced) {c : CaseResult}
    (hc : c ∈ s.cases)
    (passed : c.success = true) : c.failed = [] := by
  obtain ⟨case, w, honest⟩ := h.honest.cases c hc
  rw [CaseResult.failed, List.flatMap_eq_nil_iff]
  intro r hr
  rw [← StepResult.failedFindings_eq_flatMap]
  exact (honest.steps r hr).failedFindings_eq_nil ((honest.success_iff.mp passed).2 r hr)

/-- The report of results of the runner names the failed assertions. The section of a case has the
line of each failed assertion at any depth of its steps, once and in their order, if the texts that
stand in these lines as they are have no line breaks; what else there is in the section looks
different. Secret operands do not show. The line of totals and the table of suites count the cases
that passed and those that failed, and a case that passed has no line of an assertion. -/
theorem render_names_failures (time : Instant) (results : List SuiteResult)
    (produced : ∀ s ∈ results, s.Produced)
    (kinds : ∀ s ∈ results, ∀ c ∈ s.cases, ∀ r ∈ c.steps, Text.Unbroken r.kind ∧ Text.Unticked r.kind) :
    (∃ (opening : List String) (intro : SuiteResult → List String), Text.split '\n' (render time results) =
      opening ++ ["**" ++ toString ((results.flatMap (·.cases)).countP (·.success)) ++ "/" ++
          toString (results.flatMap (·.cases)).length ++ "** test cases passed in " ++ toString results.length ++
          " suite(s).", ""] ++
        (suiteHead ++ (results.map fun s => row [escape s.name, toString (s.cases.countP (·.success)),
          toString (s.cases.countP (!·.success)), duration s.milliseconds, icon s.success]) ++ [""]) ++
        (results.flatMap fun s => intro s ++ s.cases.flatMap fun c => printed (caseLines c)) ++ [""]) ∧
    ∀ s ∈ results, s.cases.countP (·.success) + s.cases.countP (!·.success) = s.cases.length ∧
      ∀ c ∈ s.cases,
        bulletsAmong (printed (caseLines c)) =
          (c.failed.flatMap fun f => bulletsAmong (Text.split '\n' (bullet f))) ∧
        ((∀ f ∈ c.failed, f.Unbroken) → bulletsAmong (printed (caseLines c)) = c.failed.map bullet) ∧
        (∀ f ∈ c.failed, f.isMasked = true → ∃ note reason, ∀ actual expected,
          bullet { f with actual := actual, expected := expected } =
            "- `" ++ f.operator ++ "`" ++ note ++ ": expected `****`, actual `****`" ++
              reason) ∧
        (c.success = true → bulletsAmong (printed (caseLines c)) = []) := by
  refine ⟨?_, fun s hs => ⟨?_, fun c hc => ?_⟩⟩
  · obtain ⟨opening, intro, whole⟩ := exists_split_render time results
    refine ⟨opening, intro, ?_⟩
    have rows : results.map suiteRow = results.map fun s => row [escape s.name,
        toString (s.cases.countP (·.success)), toString (s.cases.countP (!·.success)), duration s.milliseconds,
        icon s.success] := by
      refine List.map_congr_left fun s _ => ?_
      rw [suiteRow, s.passedCases_eq, s.failedCases_eq]
    rw [whole, rows, totals, passedCount_eq, caseCount_eq]
  · have all := List.length_eq_countP_add_countP (·.success) (l := s.cases)
    rw [all]
    simp
  · have shown := bulletsAmong_of_produced (produced s hs) hc (kinds s hs c hc)
    refine ⟨shown, fun unbroken => ?_, fun f _ masked => bullet_of_masked masked, fun passed => ?_⟩
    · rw [shown, ← List.flatMap_singleton' (c.failed.map bullet), List.flatMap_map]
      exact List.flatMap_congr fun f hf => bulletsAmong_split_bullet (unbroken f hf)
    · rw [shown, failed_of_success (produced s hs) hc passed]
      rfl

/-- A case that tests in a step, in a loop over two items, and in each of its rounds. -/
private def nestedCase (outer inner : Operands) : TestCase :=
  let frame (o : Operands) : StepFrame :=
    { StepFrame.saving [] with checks := [⟨"equals", Operator.equals.operation, o⟩] }
  ⟨"nested", none, [.check (frame outer),
    .each (frame outer) (.array [.null, .null]) "$.item" "$.index" [.check (frame inner)]], []⟩

private def runAlone (c : TestCase) : Exec SuiteResult :=
  Runner.run ⟨.standard, [], [], [], none⟩ ⟨none, none, none, [], [], [], [c]⟩ "."

/-- Failed assertions of both steps and of both rounds, the latter with secret operands. -/
theorem nestedCase_named : ∃ s : SuiteResult, s.Produced ∧ (∀ c ∈ s.cases, c.success = false) ∧
    s.cases.map (fun c => bulletsAmong (printed (caseLines c))) =
      [["- `equals`: expected `2`, actual `1` - Expected '2' but got '1'",
        "- `equals`: expected `2`, actual `1` - Expected '2' but got '1'",
        "- `equals`: expected `****`, actual `****` - Expected '****' but got '****'",
        "- `equals`: expected `****`, actual `****` - Expected '****' but got '****'"]] := by
  have evaluated : (runAlone (nestedCase ⟨.nat 1, .nat 2, none, false⟩ ⟨.nat 1, .nat 2, none, true⟩)).yields
      (fun s => decide ((∀ c ∈ s.cases, c.success = false) ∧ (∀ c ∈ s.cases, ∀ f ∈ c.failed, f.Unbroken) ∧
        (∀ c ∈ s.cases, ∀ r ∈ c.steps, Text.Unbroken r.kind ∧ Text.Unticked r.kind) ∧
        s.cases.map (fun c => c.failed.map bullet) =
      [["- `equals`: expected `2`, actual `1` - Expected '2' but got '1'",
        "- `equals`: expected `2`, actual `1` - Expected '2' but got '1'",
        "- `equals`: expected `****`, actual `****` - Expected '****' but got '****'",
        "- `equals`: expected `****`, actual `****` - Expected '****' but got '****'"]]))
      (.still .empty) .initial = true := by decide +kernel
  obtain ⟨s, t, h, passed⟩ := Exec.exists_of_yields evaluated
  obtain ⟨failed, unbroken, kinds, bullets⟩ := of_decide_eq_true passed
  have produced : s.Produced := .run h
  obtain ⟨-, sections⟩ := render_names_failures default [s] (List.forall_mem_singleton.mpr produced)
    (List.forall_mem_singleton.mpr kinds)
  refine ⟨s, produced, failed, bullets ▸ List.map_congr_left fun c hc => ?_⟩
  exact ((sections s List.mem_cons_self).2 c hc).2.1 (unbroken c hc)

/-- A line break in an operand breaks the line of its assertion, and what follows in the operand
looks like one more failed assertion. -/
theorem broken_operand_adds_bullet : ∃ s : SuiteResult, s.Produced ∧ ∃ c ∈ s.cases,
    c.failed.length = 1 ∧ (bulletsAmong (printed (caseLines c))).length = 2 := by
  have evaluated : (runAlone ⟨"broken", none, [.check { StepFrame.saving [] with
      checks := [⟨"equals", Operator.equals.operation,
        ⟨.string "1\n- `exists`", .nat 1, none, false⟩⟩] }], []⟩).yields
      (fun s => decide (∃ c ∈ s.cases, (∀ r ∈ c.steps, Text.Unbroken r.kind ∧ Text.Unticked r.kind) ∧
        c.failed.length = 1 ∧
        (c.failed.flatMap fun f => bulletsAmong (Text.split '\n' (bullet f))).length = 2))
      (.still .empty) .initial = true := by decide +kernel
  obtain ⟨s, t, h, passed⟩ := Exec.exists_of_yields evaluated
  obtain ⟨c, hc, kinds, single, shown⟩ := of_decide_eq_true passed
  have produced : s.Produced := .run h
  refine ⟨s, produced, c, hc, single, ?_⟩
  rw [bulletsAmong_of_produced produced hc kinds]
  exact shown

end Markdown

end Assay
