/- digest: Reports show nothing of secret operands: both formats depend on the results without them
   alone, and what is not secret they show as it is. -/

import Assay.Proofs.Json.Written
import Assay.Proofs.Result.Tree
import Assay.Report.Format

set_option autoImplicit false
set_option relaxedAutoImplicit false

namespace Assay

/-- Two outcomes of assertions are equal, or secret and equal but for their operands. -/
def Finding.SameShown (f g : Finding) : Prop :=
  f = g ∨ f.isMasked = true ∧ g = { f with actual := g.actual, expected := g.expected }

/-- Two results of steps are equal but for secret operands, at any depth. -/
inductive StepResult.SameShown : StepResult → StepResult → Prop
  | intro {r : StepResult} {findings : List Finding} {inner : List StepResult}
      (hfindings : List.Forall₂ Finding.SameShown r.findings findings)
      (hinner : List.Forall₂ StepResult.SameShown r.inner inner) :
      StepResult.SameShown r { r with findings := findings, inner := inner }

/-- Two results of cases are equal but for secret operands. -/
def CaseResult.SameShown (c d : CaseResult) : Prop :=
  List.Forall₂ StepResult.SameShown c.steps d.steps ∧ d = { c with steps := d.steps }

/-- Two results of suites are equal but for secret operands. -/
def SuiteResult.SameShown (r s : SuiteResult) : Prop :=
  List.Forall₂ CaseResult.SameShown r.cases s.cases ∧ s = { r with cases := s.cases }

private theorem map_eq_map_of_forall₂ {α β : Type} {R : α → α → Prop} {f : α → β} {l l' : List α}
    (h : List.Forall₂ R l l') (hf : ∀ a ∈ l, ∀ b, R a b → f a = f b) : l.map f = l'.map f := by
  induction h with
  | nil => rfl
  | cons first _ ih =>
    rw [List.map_cons, List.map_cons, hf _ List.mem_cons_self _ first,
      ih fun a ha => hf a (List.mem_cons_of_mem _ ha)]

@[simp] theorem Finding.isMasked_redacted (f : Finding) : f.redacted.isMasked = f.isMasked := by
  unfold redacted
  split
  · rfl
  · rfl

private theorem Finding.redacted_of_not_masked {f : Finding} (h : f.isMasked = false) :
    f.redacted = f := by
  rw [redacted, if_neg (by simp [h])]

private theorem Finding.SameShown.redacted_eq {f g : Finding} (h : f.SameShown g) :
    f.redacted = g.redacted := by
  rcases h with rfl | ⟨masked, differ⟩
  · rfl
  · have masked' : g.isMasked = true := by rw [differ]; exact masked
    rw [redacted, redacted, if_pos masked, if_pos masked', differ]

namespace StepResult

private theorem redactedAll_eq_map (l : List StepResult) : redactedAll l = l.map redacted := by
  induction l with
  | nil => rfl
  | cons r rest ih => rw [redactedAll, ih, List.map_cons]

private theorem redacted_eq (r : StepResult) : r.redacted =
    { r with findings := r.findings.map Finding.redacted, inner := r.inner.map redacted } := by
  cases r
  rw [redacted, redactedAll_eq_map]

private theorem SameShown.redacted_eq {r r' : StepResult} (h : r.SameShown r') :
    r.redacted = r'.redacted := by
  induction r using inner_induction generalizing r' with
  | h r ih =>
    cases h with
    | intro hfindings hinner =>
      have findings := map_eq_map_of_forall₂ hfindings fun f _ g hfg => hfg.redacted_eq
      have inner := map_eq_map_of_forall₂ hinner fun x hx y hxy => ih x hx hxy
      rw [StepResult.redacted_eq, StepResult.redacted_eq, findings, inner]

end StepResult

private theorem CaseResult.SameShown.redacted_eq {c d : CaseResult} (h : c.SameShown d) :
    c.redacted = d.redacted := by
  obtain ⟨hsteps, differ⟩ := h
  have steps := map_eq_map_of_forall₂ hsteps fun r _ r' hr => hr.redacted_eq
  rw [CaseResult.redacted, CaseResult.redacted, StepResult.redactedAll_eq_map,
    StepResult.redactedAll_eq_map, steps, differ]

private theorem SuiteResult.SameShown.redacted_eq {r s : SuiteResult} (h : r.SameShown s) :
    r.redacted = s.redacted := by
  obtain ⟨hcases, differ⟩ := h
  have cases := map_eq_map_of_forall₂ hcases fun c _ d hcd => hcd.redacted_eq
  rw [SuiteResult.redacted, SuiteResult.redacted, cases, differ]

private theorem SuiteResult.map_redacted_eq {l l' : List SuiteResult}
    (h : List.Forall₂ SuiteResult.SameShown l l') : l.map redacted = l'.map redacted :=
  map_eq_map_of_forall₂ h fun _ _ _ hrs => hrs.redacted_eq

namespace StepResult

theorem failedFindingsOf_eq_flatMap (l : List StepResult) :
    failedFindingsOf l = l.flatMap failedFindings := by
  induction l with
  | nil => rfl
  | cons r rest ih => rw [failedFindingsOf, ih, List.flatMap_cons]

private theorem failedFindings_redacted (r : StepResult) :
    r.redacted.failedFindings = r.failedFindings.map Finding.redacted := by
  induction r using inner_induction with
  | h r ih =>
    have same (f : Finding) : f.redacted.success = f.success := by
      unfold Finding.redacted
      split
      · rfl
      · rfl
    have own : (r.findings.map Finding.redacted).filter (!·.success) =
        (r.findings.filter (!·.success)).map Finding.redacted := by
      simp only [List.filter_map, Function.comp_def, same]
    have below : failedFindingsOf (r.inner.map redacted) =
        (failedFindingsOf r.inner).map Finding.redacted := by
      rw [failedFindingsOf_eq_flatMap, failedFindingsOf_eq_flatMap, List.flatMap_map,
        List.map_flatMap]
      exact List.flatMap_congr ih
    rw [failedFindings_eq, failedFindings_eq r, redacted_eq, List.map_append, own, below]

end StepResult

namespace Markdown

theorem bullet_redacted (f : Finding) : bullet f.redacted = bullet f := by
  cases masked : f.isMasked with
  | false => rw [Finding.redacted_of_not_masked masked]
  | true =>
    have hidden {g : Finding} (hg : g.isMasked = true) (v : Json) : g.display v = maskText := by
      rw [Finding.display, if_pos hg]
    have masked' : f.redacted.isMasked = true := by rwa [Finding.isMasked_redacted]
    rw [bullet, bullet, hidden masked, hidden masked, hidden masked', hidden masked',
      Finding.redacted, if_pos masked]

private theorem failureLines_redacted (r : StepResult) :
    failureLines r.redacted = failureLines r := by
  have bullets : r.redacted.failedFindings.map bullet = r.failedFindings.map bullet := by
    rw [StepResult.failedFindings_redacted, List.map_map]
    exact List.map_congr_left fun f _ => bullet_redacted f
  rw [failureLines, bullets, StepResult.redacted_eq]
  rfl

private theorem stepRows_redacted (place : Nat) (steps : List StepResult) :
    stepRows place (steps.map StepResult.redacted) = stepRows place steps := by
  induction steps generalizing place with
  | nil => rfl
  | cons r rest ih =>
    rw [List.map_cons, stepRows, stepRows, ih, StepResult.redacted_eq]
    rfl

private theorem caseLines_redacted (c : CaseResult) : caseLines c.redacted = caseLines c := by
  have failures : ((c.steps.map StepResult.redacted).filter (!·.success)).flatMap failureLines =
      (c.steps.filter (!·.success)).flatMap failureLines := by
    have same (r : StepResult) : r.redacted.success = r.success := by rw [StepResult.redacted_eq]
    simp only [List.filter_map, Function.comp_def, same, List.flatMap_map, failureLines_redacted]
  have steps : stepLines c.redacted = stepLines c := by
    rw [stepLines, stepLines, CaseResult.redacted, StepResult.redactedAll_eq_map]
    simp only [stepRows_redacted, failures, List.isEmpty_map]
  rw [caseLines, caseLines, steps]
  rfl

private theorem suiteLines_redacted (s : SuiteResult) : suiteLines s.redacted = suiteLines s := by
  have cases : s.redacted.cases.flatMap caseLines = s.cases.flatMap caseLines := by
    rw [SuiteResult.redacted, List.flatMap_map]
    exact List.flatMap_congr fun c _ => caseLines_redacted c
  rw [suiteLines, suiteLines, cases]
  rfl

private theorem passedCases_redacted (s : SuiteResult) :
    s.redacted.passedCases = s.passedCases := by
  rw [SuiteResult.passedCases, SuiteResult.passedCases, SuiteResult.redacted, List.filter_map,
    List.length_map]
  rfl

private theorem suiteRow_redacted (s : SuiteResult) : suiteRow s.redacted = suiteRow s := by
  have failed : s.redacted.failedCases = s.failedCases := by
    rw [SuiteResult.failedCases, SuiteResult.failedCases, passedCases_redacted,
      SuiteResult.redacted, List.length_map]
  rw [suiteRow, suiteRow, passedCases_redacted, failed]
  rfl

private theorem totals_redacted (results : List SuiteResult) :
    totals (results.map SuiteResult.redacted) = totals results := by
  have passed : passedCount (results.map SuiteResult.redacted) = passedCount results := by
    simp only [passedCount, List.foldr_map, passedCases_redacted]
  have count : caseCount (results.map SuiteResult.redacted) = caseCount results := by
    simp only [caseCount, List.foldr_map, SuiteResult.redacted, List.length_map]
  rw [totals, totals, passed, count, List.length_map]

private theorem render_redacted (time : Instant) (results : List SuiteResult) :
    render time (results.map SuiteResult.redacted) = render time results := by
  have rows : (results.map SuiteResult.redacted).map suiteRow = results.map suiteRow := by
    rw [List.map_map]
    exact List.map_congr_left fun s _ => suiteRow_redacted s
  have sections : (results.map SuiteResult.redacted).flatMap suiteLines =
      results.flatMap suiteLines := by
    rw [List.flatMap_map]
    exact List.flatMap_congr fun s _ => suiteLines_redacted s
  rw [render, render, lines, lines, totals_redacted, rows, sections]

end Markdown

open Json (get?)

/-- Where the outcome of an assertion stands in the value of a result, at any depth. -/
inductive StepResult.Holds : StepResult → List Segment → Finding → Prop
  | own {r : StepResult} {k : Nat} {f : Finding} (h : r.findings[k]? = some f) :
      StepResult.Holds r [.key "assertions", .index k] f
  | inner {r x : StepResult} {k : Nat} {p : List Segment} {f : Finding}
      (h : r.inner[k]? = some x) (hx : StepResult.Holds x p f) :
      StepResult.Holds r (.key "inner" :: .index k :: p) f

/-- Where the outcome of an assertion stands in the value of the results of suites. -/
def SuiteResult.Holds (results : List SuiteResult) (p : List Segment) (f : Finding) : Prop :=
  ∃ i s j c k r q, results[i]? = some s ∧ s.cases[j]? = some c ∧ c.steps[k]? = some r ∧
    StepResult.Holds r q f ∧
    p = .index i :: .key "cases" :: .index j :: .key "steps" :: .index k :: q

namespace StepResult

private theorem toJsonAll_eq_map (l : List StepResult) : toJsonAll l = l.map toJson := by
  induction l with
  | nil => rfl
  | cons r rest ih => rw [toJsonAll, ih, List.map_cons]

private theorem child?_assertions (r : StepResult) :
    Json.child? (.key "assertions") r.toJson = some (.array (r.findings.map Finding.toJson)) := by
  cases r
  simp [toJson, Json.child?, Members.get?]

private theorem child?_inner {r : StepResult} (h : r.inner ≠ []) :
    Json.child? (.key "inner") r.toJson = some (.array (r.inner.map toJson)) := by
  cases r with
  | mk id name kind success error milliseconds findings changes details inner logs =>
    cases details <;> simp_all [toJson, Json.child?, Members.get?, toJsonAll_eq_map]

private theorem Holds.get? {r : StepResult} {p : List Segment} {f : Finding} (h : r.Holds p f) :
    get? p r.redacted.toJson = some f.redacted.toJson := by
  induction h with
  | own h =>
    rw [Json.get?, child?_assertions, redacted_eq]
    simp [Json.get?, Json.child?, h]
  | inner h hx ih =>
    rename_i r x k p f
    have some : r.redacted.inner ≠ [] := by
      rw [redacted_eq]
      intro none
      simp [List.map_eq_nil_iff.mp none] at h
    rw [Json.get?, child?_inner some, redacted_eq]
    simpa [Json.get?, Json.child?, h] using ih

end StepResult

private theorem SuiteResult.Holds.get? {results : List SuiteResult} {p : List Segment} {f : Finding}
    (h : SuiteResult.Holds results p f) :
    get? p (.array (results.map fun r => r.redacted.toJson)) = some f.redacted.toJson := by
  obtain ⟨i, s, j, c, k, r, q, hs, hc, hr, hf, rfl⟩ := h
  simp [Json.get?, Json.child?, hs, hc, hr, SuiteResult.toJson, SuiteResult.redacted,
    CaseResult.toJson, CaseResult.redacted, Members.get?, StepResult.toJsonAll_eq_map,
    StepResult.redactedAll_eq_map, hf.get?]

namespace ReportFormat

private theorem render_eq_of_redacted_eq {results others : List SuiteResult}
    (h : results.map SuiteResult.redacted = others.map SuiteResult.redacted) (time : Instant)
    (format : ReportFormat) : render time results format = render time others format := by
  cases format with
  | markdown =>
    rw [render, render, ← Markdown.render_redacted time results, h, Markdown.render_redacted]
  | json =>
    have values := congrArg (fun l => (Json.array (l.map SuiteResult.toJson)).renderIndented) h
    simp only [List.map_map] at values
    exact values

/-- Reports are the same for results that differ in nothing but secret operands; and an assertion
that is not secret stands in the JSON report at its own place, unchanged. -/
theorem render_hides_secrets_only (time : Instant) (results : List SuiteResult) :
    (∀ others, List.Forall₂ SuiteResult.SameShown results others →
      ∀ format, render time others format = render time results format) ∧
    ∀ p f, SuiteResult.Holds results p f → f.mask ≠ some true →
      let shown := Json.object [("operator", .string f.operator), ("success", .bool f.success),
        ("description", .ofText? f.description), ("actual", f.actual), ("expected", f.expected),
        ("message", .ofText? f.message), ("mask", .bool false)]
      get? p (.array (results.map fun r => r.redacted.toJson)) = some shown ∧
        ∃ before after, render time results .json = before ++ shown.renderAt p.length ++ after := by
  refine ⟨fun others h format => ?_, fun p f h hmask => ?_⟩
  · exact render_eq_of_redacted_eq (SuiteResult.map_redacted_eq h).symm time format
  · have unmasked : f.isMasked = false := by simpa [Finding.isMasked] using hmask
    have shown : f.redacted.toJson = Json.object [("operator", .string f.operator),
        ("success", .bool f.success), ("description", .ofText? f.description),
        ("actual", f.actual), ("expected", f.expected), ("message", .ofText? f.message),
        ("mask", .bool false)] := by
      rw [Finding.redacted_of_not_masked unmasked, Finding.toJson, unmasked]
    have place := h.get?
    rw [shown] at place
    obtain ⟨before, after, written⟩ := Json.exists_renderAt_of_get? 0 place
    rw [Nat.zero_add] at written
    exact ⟨place, before, after, written⟩

/-- Results with a secret assertion inside a round of a loop, after one that is not secret. -/
def resultsWith (secret : Json) : List SuiteResult :=
  let plain : Finding := ⟨"exists", true, none, .nat 1, .null, none, none⟩
  let hidden : Finding := ⟨"equals", false, none, secret, .nat 1, none, some true⟩
  let check : StepResult := { (default : StepResult) with findings := [plain, hidden] }
  let loop : StepResult := { (default : StepResult) with inner := [.ofRound 0 [check]] }
  [{ (default : SuiteResult) with cases := [{ (default : CaseResult) with steps := [loop] }] }]

theorem render_hides_secret_of_round :
    (∀ format, render default (resultsWith (.nat 2)) format =
      render default (resultsWith (.string "hunter2")) format) ∧
    get? [.index 0, .key "cases", .index 0, .key "steps", .index 0, .key "inner", .index 0,
        .key "inner", .index 0, .key "assertions", .index 0]
      (.array ((resultsWith (.string "hunter2")).map fun r => r.redacted.toJson)) =
      some (.object [("operator", .string "exists"), ("success", .bool true),
        ("description", .null), ("actual", .nat 1), ("expected", .null), ("message", .null),
        ("mask", .bool false)]) := by
  obtain ⟨same, unchanged⟩ := render_hides_secrets_only default (resultsWith (.string "hunter2"))
  refine ⟨same _ ?_, ?_⟩
  -- From the assertion outwards: the step in the round, the round, the loop, its case and suite.
  · have findings : List.Forall₂ Finding.SameShown
        [⟨"exists", true, none, .nat 1, .null, none, none⟩,
          ⟨"equals", false, none, .string "hunter2", .nat 1, none, some true⟩]
        [⟨"exists", true, none, .nat 1, .null, none, none⟩,
          ⟨"equals", false, none, .nat 2, .nat 1, none, some true⟩] :=
      .cons (Or.inl rfl) (.cons (Or.inr ⟨rfl, rfl⟩) .nil)
    have check := StepResult.SameShown.intro (r := { (default : StepResult) with findings := _ })
      findings .nil
    have round := StepResult.SameShown.intro (r := .ofRound 0 [_]) .nil (.cons check .nil)
    have loop := StepResult.SameShown.intro (r := { (default : StepResult) with inner := [_] })
      .nil (.cons round .nil)
    exact .cons ⟨.cons ⟨.cons loop .nil, rfl⟩ .nil, rfl⟩ .nil
  · refine (unchanged _ ⟨"exists", true, none, .nat 1, .null, none, none⟩ ?_ (by simp)).1
    exact ⟨0, _, 0, _, 0, _, _, rfl, rfl, rfl, .inner rfl (.inner rfl (.own rfl)), rfl⟩

end ReportFormat

end Assay
