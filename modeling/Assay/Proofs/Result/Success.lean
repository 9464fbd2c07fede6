/- digest: No success hides a failure, from the assertions of a step up to whole suites; and where
   no loop under a condition runs, no step fails without a failed assertion. -/

import Assay.Proofs.Case.Runs
import Assay.Proofs.Result.Tree
import Assay.Proofs.Step.Avoiding
import Assay.Run.Parallel

set_option autoImplicit false
set_option relaxedAutoImplicit false

namespace Assay

open Exec

def StepResult.Throughout (P : StepResult → Prop) (results : List StepResult) : Prop :=
  ∀ r ∈ results, ∀ n ∈ r.nodes, P n

namespace StepResult

variable {P : StepResult → Prop}

private theorem throughout_nil : Throughout P [] := by simp [Throughout]

private theorem throughout_cons {r : StepResult} {rest : List StepResult} :
    Throughout P (r :: rest) ↔ (∀ n ∈ r.nodes, P n) ∧ Throughout P rest := by
  simp [Throughout]

private theorem throughout_append {l more : List StepResult} (hl : Throughout P l)
    (hmore : Throughout P more) : Throughout P (l ++ more) := by
  intro r hr
  rcases List.mem_append.mp hr with hr | hr
  · exact hl r hr
  · exact hmore r hr

private theorem forall_mem_nodes {r : StepResult} (hr : P r) (hinner : Throughout P r.inner) :
    ∀ n ∈ r.nodes, P n := by
  intro n hn
  rcases mem_nodes.mp hn with rfl | ⟨x, hx, hn⟩
  · exact hr
  · exact hinner x hx n hn

end StepResult

open StepResult (Throughout)

section Work

variable {P : StepResult → Prop} {body : LoopBody}

private theorem Each.gives_rounds (hround : ∀ index results, P (.ofRound index results))
    (hbody : Gives (Throughout P) body) (itemPath indexPath : Path) (index : Nat)
    (items : List Json) :
    Gives (fun r => ∀ results, r = .ok results → Throughout P results)
      (Each.rounds itemPath indexPath body index items) := by
  induction items generalizing index with
  | nil =>
    refine gives_pure ?_
    rintro results ⟨⟩
    exact StepResult.throughout_nil
  | cons item rest ih =>
    refine gives_bind fun _ => gives_bind fun _ => hbody.attempt.bind fun r hr => ?_
    cases r with
    | error f => exact gives_pure (by simp)
    | ok results =>
      refine (ih (index + 1)).bind fun r hrest => ?_
      cases r with
      | error f => exact gives_pure (by simp)
      | ok others =>
        refine gives_pure ?_
        rintro all ⟨⟩
        refine StepResult.throughout_cons.mpr ⟨?_, hrest others rfl⟩
        exact StepResult.forall_mem_nodes (hround index results) (hr results rfl)

private theorem Each.gives_run (hround : ∀ index results, P (.ofRound index results))
    (hbody : Gives (Throughout P) body) (source : Json) (itemKey indexKey : String) :
    Gives (fun o => o.Exact ∧ Throughout P o.inner) (Each.run source itemKey indexKey body) := by
  refine gives_bind fun source => ?_
  split
  · exact gives_fault _
  · refine gives_bind fun itemPath => gives_bind fun indexPath => gives_bind fun c => ?_
    refine gives_bind fun d => (Each.gives_rounds hround hbody _ _ _ _).bind fun results h => ?_
    refine gives_bind fun _ => gives_bind fun _ => ?_
    cases results with
    | error f => exact gives_fault f
    | ok inner =>
      refine gives_pure ⟨Outcome.exact_withInner inner rfl, ?_⟩
      rw [Outcome.inner_withInner]
      exact h inner rfl

private theorem gives_withInner {inner : List StepResult} (hinner : Throughout P inner)
    (o : Outcome) :
    Gives (fun o => o.Sound ∧ Throughout P o.inner) (pure (o.withInner inner)) := by
  refine gives_pure ⟨Outcome.sound_withInner inner o, ?_⟩
  rwa [Outcome.inner_withInner]

private theorem Loop.gives_rounds (hround : ∀ index results, P (.ofRound index results))
    (hbody : Gives (Throughout P) body) (condition : Assertion) (timeout start patience done : Nat)
    {inner : List StepResult} (hinner : Throughout P inner) :
    Gives (fun o => o.Sound ∧ Throughout P o.inner)
      (Loop.rounds condition body timeout start patience done inner) := by
  induction patience generalizing done inner with
  | zero => exact gives_throw _
  | succ patience ih =>
    refine gives_bind fun last => ?_
    split
    · exact gives_withInner hinner _
    · refine gives_bind fun time => ?_
      split
      · exact gives_withInner hinner _
      · refine (hbody.underDeadline _).bind fun results hresults => ?_
        cases results with
        | none => exact gives_withInner hinner _
        | some results =>
          refine gives_bind fun _ => ?_
          have added : Throughout P (addRound done results inner) := by
            unfold addRound
            split
            · exact hinner
            · refine StepResult.throughout_append hinner ?_
              refine StepResult.throughout_cons.mpr ⟨?_, StepResult.throughout_nil⟩
              exact StepResult.forall_mem_nodes (hround done results) (hresults results rfl)
          exact ih (done + 1) added

private theorem Loop.gives_run (hround : ∀ index results, P (.ofRound index results))
    (hbody : Gives (Throughout P) body) (condition : Assertion) (timeout : Json) :
    Gives (fun o => o.Sound ∧ Throughout P o.inner) (Loop.run condition timeout body) := by
  refine gives_bind fun timeout => gives_bind fun start => gives_bind fun w => ?_
  exact Loop.gives_rounds hround hbody _ _ _ _ _ StepResult.throughout_nil

private theorem Use.gives_run {body : List Step → Exec (List StepResult)}
    (hbody : ∀ steps, Gives (Throughout P) (body steps)) (template : String)
    (arguments : Members Json) :
    Gives (fun o => o.Exact ∧ Throughout P o.inner) (Use.run template arguments body) := by
  refine gives_bind fun name => gives_bind fun w => gives_bind fun t => gives_bind fun a => ?_
  refine gives_bind fun bound => gives_bind fun inside => ?_
  refine (((hbody t.steps).naming _).apart inside).bind fun r hr => ?_
  refine gives_bind fun d => gives_bind fun c => gives_bind fun _ => gives_bind fun _ => ?_
  refine gives_pure ⟨Outcome.exact_withInner _ rfl, ?_⟩
  rw [Outcome.inner_withInner]
  exact hr

end Work

namespace Step

variable {P : StepResult → Prop} {body : List Step → Exec (List StepResult)}

/-- Work that is not a loop under a condition fails if and only if something inside it does. -/
theorem gives_work_exact (hround : ∀ index results, P (.ofRound index results))
    (hbody : ∀ steps, Gives (Throughout P) (body steps)) {step : Step}
    (hstep : step.isLoop = false) :
    Gives (fun o => o.Exact ∧ Throughout P o.inner) (step.work body) := by
  have alone {o : Outcome} (ho : o.success = true) (hinner : o.inner = []) :
      o.Exact ∧ Throughout P o.inner := by
    refine ⟨Outcome.exact_of_inner_nil ho hinner, ?_⟩
    rw [hinner]
    exact StepResult.throughout_nil
  cases step with
  | wait frame duration =>
    exact gives_bind fun milliseconds => gives_bind fun _ => gives_pure (alone rfl rfl)
  | check frame => exact gives_pure (alone rfl rfl)
  | each frame items itemKey indexKey steps => exact Each.gives_run hround (hbody steps) _ _ _
  | loop frame condition timeout steps => cases hstep
  | request frame call =>
    refine gives_bind fun request => gives_bind fun response => gives_bind fun _ => ?_
    exact gives_pure (alone rfl rfl)
  | use frame template arguments => exact Use.gives_run hbody _ _
  | foreign frame work =>
    refine gives_bind fun c => gives_bind fun w => ?_
    split
    · exact gives_bind fun _ => gives_pure (alone rfl rfl)
    · exact gives_throw _

private theorem gives_work_sound (hround : ∀ index results, P (.ofRound index results))
    (hbody : ∀ steps, Gives (Throughout P) (body steps)) (step : Step) :
    Gives (fun o => o.Sound ∧ Throughout P o.inner) (step.work body) := by
  -- Only a loop under a condition can fail without a failure inside it, when its time is over.
  cases hstep : step.isLoop with
  | false =>
    exact (gives_work_exact hround hbody hstep).mono fun o h => ⟨h.1.sound, h.2⟩
  | true =>
    cases step with
    | loop frame condition timeout steps => exact Loop.gives_run hround (hbody steps) _ _
    | _ => cases hstep

private theorem gives_complete (frame : StepFrame) (o : Outcome) :
    Gives (fun r => r.inner = o.inner ∧
      (r.success = true ↔ o.success = true ∧ ∀ f ∈ r.findings, f.success = true))
      (complete frame o) := by
  refine gives_bind fun changes => gives_bind fun findings => gives_bind fun logs => ?_
  exact gives_pure ⟨rfl, by simp⟩

private theorem gives_runLayer_sound {inner : Step → Exec StepResult}
    (hinner : ∀ step, Gives (fun r => ∀ n ∈ r.nodes, n.Sound) (inner step)) (step : Step) :
    Gives (fun r => ∀ n ∈ r.nodes, n.Sound) (runLayer inner step) := by
  have hwork := gives_work_sound (fun index results => (StepResult.exact_ofRound index results).sound)
    (gives_inTurn hinner) step
  refine (hwork.naming _).bind fun o ho => (gives_complete step.frame o).mono fun r hr => ?_
  obtain ⟨sound, below⟩ := ho
  refine StepResult.forall_mem_nodes (fun success => ?_) (by rwa [hr.1])
  obtain ⟨passed, findings⟩ := hr.2.mp success
  exact ⟨findings, by simpa [hr.1] using sound passed⟩

private theorem gives_runLayer_exact {inner : Step → Exec StepResult}
    (hinner : ∀ step, Gives (fun r => ∀ n ∈ r.nodes, n.Exact) (inner step)) {step : Step}
    (hstep : step.isLoop = false) :
    Gives (fun r => ∀ n ∈ r.nodes, n.Exact) (runLayer inner step) := by
  have hwork := gives_work_exact StepResult.exact_ofRound (gives_inTurn hinner) hstep
  refine (hwork.naming _).bind fun o ho => (gives_complete step.frame o).mono fun r hr => ?_
  have passed : o.success = true ↔ ∀ x ∈ o.inner, x.success = true := ho.1
  refine StepResult.forall_mem_nodes ?_ (by rw [hr.1]; exact ho.2)
  rw [StepResult.Exact, hr.2, hr.1, passed]
  exact and_comm

private theorem gives_run_honest (step : Step) : Gives StepResult.Honest step.run := by
  refine gives_bind fun w => ?_
  rw [← runWithout_none]
  refine Gives.mono ?_ fun r => StepResult.honest_of_sound
  exact gives_runWithout (fun inner hinner step _ => gives_runLayer_sound hinner step) w.depth step

private theorem accounted_of_avoids {step : Step} {w : Surroundings} {s t : RunState}
    {r : StepResult}
    (havoids : step.Avoids isLoop w s) (h : step.run w s = (.ok r, t)) : r.Accounted := by
  rw [← havoids] at h
  refine StepResult.accounted_of_exact ?_
  exact gives_runWithout (fun inner hinner step => gives_runLayer_exact hinner) w.depth step w s r t h

end Step

/-- The findings of a result are those of the assertions of a step, one for each and in their order,
as the variables decide them in a state. -/
def StepResult.Decided (w : Surroundings) (s : RunState) (frame : StepFrame) (r : StepResult) :
    Prop :=
  List.Forall₂ (fun check finding => ∃ lines, check.execute (scope w s) = .ok ⟨finding, lines⟩)
    frame.checks r.findings

namespace Step

variable {w : Surroundings} {s t : RunState}

-- What the assertions log is not read by those after them, which look at the same variables.
private theorem decided_of_checks {checks : List Assertion} {findings : List Finding}
    (h : inTurn Exec.check checks w s = (.ok findings, t)) :
    (∃ lines, t = { s with context := { s.context with log := lines } }) ∧
      List.Forall₂ (fun check finding => ∃ lines, check.execute (scope w s) = .ok ⟨finding, lines⟩)
        checks findings := by
  induction checks generalizing s findings with
  | nil =>
    obtain ⟨rfl, rfl⟩ := inTurn_nil_eq_ok.mp h
    exact ⟨⟨s.context.log, rfl⟩, .nil⟩
  | cons first rest ih =>
    obtain ⟨finding, u, others, hfirst, hrest, rfl⟩ := inTurn_cons_eq_ok.mp h
    obtain ⟨lines, decided, rfl⟩ := resolving_eq_ok.mp hfirst
    obtain ⟨⟨more, equal⟩, decidedRest⟩ := ih hrest
    refine ⟨⟨more, equal⟩, .cons ⟨lines, decided⟩ (decidedRest.imp ?_)⟩
    rintro check other ⟨further, executed⟩
    have ignored := check.ignoresLog_execute s.context (s.context.log ++ lines) w.processVariable
    exact ⟨further, ignored.symm.trans executed⟩

private theorem decided_of_complete {frame : StepFrame} {o : Outcome} {r : StepResult}
    (h : complete frame o w s = (.ok r, t)) : r.Decided w t frame := by
  obtain ⟨changes, u, -, h⟩ := bind_eq_ok.mp h
  obtain ⟨findings, v, hchecks, h⟩ := bind_eq_ok.mp h
  rw [bind_of_ok (takeLog_run w v)] at h
  obtain ⟨rfl, rfl⟩ := pure_eq_ok.mp h
  obtain ⟨⟨lines, rfl⟩, decided⟩ := decided_of_checks hchecks
  refine decided.imp ?_
  rintro check finding ⟨further, executed⟩
  have ignored := check.ignoresLog_execute u.context [] w.processVariable
  exact ⟨further, ignored.trans executed⟩

private theorem decided_of_run {step : Step} {r : StepResult} (h : step.run w s = (.ok r, t)) :
    r.Decided w t step.frame := by
  obtain ⟨w', u, surrounded, h⟩ := bind_eq_ok.mp h
  obtain ⟨rfl, rfl⟩ := end_ok_inj.mp surrounded
  cases levels : w.depth with
  | zero => simp [levels, runWithin] at h
  | succ inside =>
    rw [levels] at h
    obtain ⟨o, u, -, completed⟩ := bind_eq_ok.mp h
    exact decided_of_complete completed

end Step

/-- How a result comes from a step: it is that of the completed step, or that of its fault. -/
inductive StepResult.ComesFrom (w : Surroundings) (step : Step) : StepResult → Prop
  | completed {s t : RunState} {r : StepResult} (h : step.run w s = (.ok r, t)) :
    ComesFrom w step r
  | faulted {s t : RunState} {f : Fault} (h : step.run w s = (.error (.fault f), t)) :
    ComesFrom w step (.ofFault step.frame f t.context.log)

private theorem StepResult.ComesFrom.honest {w : Surroundings} {step : Step} {r : StepResult}
    (h : r.ComesFrom w step) : r.Honest := by
  cases h with
  | completed h => exact step.gives_run_honest _ _ _ _ h
  | faulted h => exact StepResult.honest_of_sound (StepResult.sound_ofFault _ _ _)

/-- A result of a run of a case succeeds exactly when no fault broke the run off and all its steps
succeeded, and the results of its steps come from steps of the case and are honest. -/
structure CaseResult.Honest (c : TestCase) (w : Surroundings) (r : CaseResult) : Prop where
  success_iff : r.success = true ↔ r.error = none ∧ ∀ x ∈ r.steps, x.success = true
  origin : ∀ x ∈ r.steps, ∃ step ∈ c.steps, x.ComesFrom w step
  steps : ∀ x ∈ r.steps, x.Honest

/-- A result of a suite succeeds exactly when nothing broke the suite off and all its cases
succeeded, which are honest. -/
structure SuiteResult.Honest (r : SuiteResult) : Prop where
  success_iff : r.success = true ↔ r.error = none ∧ ∀ x ∈ r.cases, x.success = true
  cases : ∀ x ∈ r.cases, ∃ c w, x.Honest c w

namespace TestCase

variable {c : TestCase} {w : Surroundings} {s t : RunState}

private theorem origin_of_runSteps {steps : List Step} {results : List StepResult}
    {fault : Option Fault}
    (h : runSteps steps w s = (.ok (results, fault), t)) :
    ∀ x ∈ results, ∃ step ∈ steps, x.ComesFrom w step := by
  induction steps generalizing s t results with
  | nil =>
    obtain ⟨equal, -⟩ := pure_eq_ok.mp h
    cases equal
    simp
  | cons step rest ih =>
    rw [runSteps, bind_eq_ok] at h
    obtain ⟨r, u, hr, h⟩ := h
    rcases attempt_eq_ok.mp hr with ⟨first, rfl, hfirst⟩ | ⟨f, rfl, hfault⟩
    · obtain ⟨⟨others, last⟩, v, hrest, hend⟩ := bind_eq_ok.mp h
      obtain ⟨equal, -⟩ := pure_eq_ok.mp hend
      cases equal
      intro x hx
      rcases List.mem_cons.mp hx with rfl | later
      · exact ⟨step, List.mem_cons_self, .completed hfirst⟩
      · obtain ⟨origin, horigin, comes⟩ := ih hrest x later
        exact ⟨origin, List.mem_cons_of_mem _ horigin, comes⟩
    · obtain ⟨logs, v, hlogs, hend⟩ := bind_eq_ok.mp h
      obtain ⟨rfl, rfl⟩ := end_ok_inj.mp hlogs
      obtain ⟨equal, -⟩ := pure_eq_ok.mp hend
      cases equal
      intro x hx
      obtain rfl := List.mem_singleton.mp hx
      exact ⟨step, List.mem_cons_self, .faulted hfault⟩

private theorem honest_of_runOnce {dataset : Option String} {r : CaseResult}
    (h : c.runOnce dataset w s = (.ok r, t)) : r.Honest c w := by
  obtain ⟨⟨results, fault⟩, u, hsteps, hend⟩ := bind_eq_ok.mp h
  obtain ⟨rfl, -⟩ := pure_eq_ok.mp hend
  have origin := origin_of_runSteps hsteps
  refine ⟨by cases fault <;> simp, origin, fun x hx => ?_⟩
  obtain ⟨step, -, comes⟩ := origin x hx
  exact comes.honest

private theorem honest_of_run {results : List CaseResult} (h : c.run w s = (.ok results, t)) :
    ∀ r ∈ results, r.Honest c w := by
  intro r hr
  obtain ⟨dataset, u, v, hrun⟩ := exists_runOnce h hr
  exact honest_of_runOnce hrun

end TestCase

namespace Runner

private theorem honest_failed (name : String) (file : Option String) (error : String) :
    (SuiteResult.failed name file error).Honest := by
  constructor
  · simp [SuiteResult.failed]
  · simp [SuiteResult.failed]

theorem gives_run_honest (runner : Runner) (suite : Suite) (folder : String) :
    Gives SuiteResult.Honest (runner.run suite folder) := by
  have cases : Gives (fun results => ∀ l ∈ results, ∀ x ∈ l, ∃ c w, CaseResult.Honest c w x)
      (inTurn TestCase.run (runner.selected suite)) := by
    refine gives_inTurn (fun c => ?_) _
    exact fun w s results t h x hx => ⟨c, w, TestCase.honest_of_run h x hx⟩
  refine gives_bind fun store => ((cases.amid _).apart _).bind fun r hr => gives_pure ⟨?_, ?_⟩
  · simp only [List.all_eq_true, true_and]
  · intro x hx
    obtain ⟨l, hl, hx⟩ := List.mem_flatten.mp hx
    exact hr l hl x hx

theorem gives_runFile_honest (runner : Runner) (path : String) :
    Gives SuiteResult.Honest (runner.runFile path) := by
  refine gives_bind fun r => ?_
  cases r with
  | error f => exact gives_pure (honest_failed _ _ _)
  | ok suite =>
    refine (runner.gives_run_honest suite _).attempt.bind fun r hr => ?_
    cases r with
    | error f =>
      have failed := honest_failed suite.name (some path) f.message
      exact gives_pure ⟨failed.success_iff, failed.cases⟩
    | ok result => exact gives_pure ⟨(hr result rfl).success_iff, (hr result rfl).cases⟩

private theorem gives_conclude_honest (runner : Runner) (path : String) (timing : Timing)
    (answers : List Http.Answer) :
    Gives (fun outcome => (closing path outcome).Honest) (runner.conclude path timing answers) := by
  intro w s outcome t h
  unfold conclude at h
  rcases hfile : runner.runAside path timing (w.transport.after s.sent answers) w with ⟨(e | r), u⟩
  · cases e with
    | breakdown text =>
      simp only [hfile, end_ok_inj] at h
      obtain ⟨rfl, -⟩ := h
      exact honest_failed _ _ _
    | fault _ | cancelled _ | exhausted => simp [hfile] at h
  · simp only [hfile, end_ok_inj] at h
    obtain ⟨rfl, -⟩ := h
    exact runner.gives_runFile_honest path _ _ _ _ hfile

end Runner

def FileRun.Honest (run : FileRun) : Prop :=
  match run.stage with
  | .ended outcome => (Runner.closing run.path outcome).Honest
  | .done result => result.Honest
  | _ => True

/-- All results of some runs are honest, also those that are not taken over yet. -/
structure Pool.Honest (p : Pool) : Prop where
  results : ∀ r ∈ p.results, r.Honest
  runs : ∀ run ∈ p.runs, run.Honest

private theorem Pool.Honest.put {p : Pool} (hp : p.Honest) {place : Nat} {path : String}
    {stage : Stage}
    (h : FileRun.Honest ⟨path, stage⟩) : (p.put place path stage).Honest := by
  refine ⟨hp.results, fun run hrun => ?_⟩
  rcases List.mem_or_eq_of_mem_set hrun with old | rfl
  · exact hp.runs run old
  · exact h

namespace Runner

private theorem gives_turn_honest (runner : Runner) {p : Pool} (hp : p.Honest) (turn : Turn) :
    Gives Pool.Honest (runner.turn p turn) := by
  unfold Runner.turn
  split
  · exact gives_pure hp
  · rename_i path stage found
    have here : FileRun.Honest ⟨path, stage⟩ := hp.runs _ (List.mem_of_getElem? found)
    split
    · split
      · exact gives_pure (hp.put trivial)
      · exact gives_pure hp
    · refine gives_bind fun w => ?_
      split
      · exact gives_pure hp
      · exact gives_bind fun answer => gives_pure (hp.put trivial)
    · exact (runner.gives_conclude_honest _ _ _).bind fun outcome h => gives_pure (hp.put h)
    · exact gives_pure (hp.put here)
    · have collected : FileRun.Honest ⟨path, .collected⟩ := trivial
      refine gives_pure ⟨fun r hr => ?_, (hp.put collected).runs⟩
      rcases List.mem_append.mp hr with before | new
      · exact hp.results r before
      · rw [List.mem_singleton.mp new]
        exact here
    · exact gives_pure hp

/-- In whatever order suites start, ask and end, all their results are honest. -/
theorem gives_play_honest (runner : Runner) {p : Pool} (hp : p.Honest) (turns : List Turn) :
    Gives Pool.Honest (runner.play p turns) := by
  induction turns generalizing p with
  | nil => exact gives_pure hp
  | cons turn rest ih => exact (runner.gives_turn_honest hp turn).bind fun q hq => ih hq

end Runner

/-- What counts as a success hides no failure, whatever is run: a step, a case, or suites in any
order. The result of a step has all its assertions, as they are decided in the end. And a step that
comes upon no loop under a condition fails only over failed assertions. -/
theorem success_hides_no_failure (w : Surroundings) (s t : RunState) :
    (∀ (step : Step) (r : StepResult), step.run w s = (.ok r, t) →
      r.Honest ∧ r.Decided w t step.frame ∧ (step.Avoids Step.isLoop w s → r.Accounted)) ∧
    (∀ (c : TestCase) (results : List CaseResult), c.run w s = (.ok results, t) →
      ∀ r ∈ results, r.Honest c w) ∧
    (∀ (runner : Runner) (paths : List String) (limit : Nat) (turns : List Turn) (p : Pool),
      runner.play (.ofFiles paths limit) turns w s = (.ok p, t) → ∀ r ∈ p.results, r.Honest) := by
  refine ⟨fun step r h => ⟨step.gives_run_honest w s r t h, ?_, fun havoids => ?_⟩, ?_, ?_⟩
  · exact Step.decided_of_run h
  · exact Step.accounted_of_avoids havoids h
  · exact fun c results h => TestCase.honest_of_run h
  · intro runner paths limit turns p h
    have waiting : (Pool.ofFiles paths limit).Honest := by
      refine ⟨by simp [Pool.ofFiles], fun run hrun => ?_⟩
      obtain ⟨path, -, rfl⟩ := List.mem_map.mp hrun
      exact trivial
    exact (runner.gives_play_honest waiting turns w s p t h).results

/-- A loop over one item with a step that tests whether true is false. -/
def failingInside : Step :=
  .each (.saving []) (.array [.null]) "$.item" "$.index"
    [.check { StepFrame.saving [] with
      checks := [⟨"equals", Operator.equals.operation, ⟨.bool true, .bool false, none, false⟩⟩] }]

/-- The failure inside shows in the result of the loop and goes back to the failed assertion. -/
theorem failingInside_hides_no_failure :
    ∃ r t, failingInside.run (.still .empty) .initial = (.ok r, t) ∧ r.success = false ∧
      r.Honest ∧ r.failedFindings ≠ [] := by
  have evaluated : Exec.yields failingInside.run (fun r => !r.success) (.still .empty) .initial =
      true := by decide +kernel
  obtain ⟨r, t, h, failed⟩ := Exec.exists_of_yields evaluated
  have free : failingInside.Free Step.isLoop := by
    refine .intro rfl fun x hx => ?_
    obtain rfl := List.mem_singleton.mp hx
    exact .intro rfl (by simp [Step.body])
  have havoids : failingInside.Avoids Step.isLoop (.still .empty) .initial :=
    free.avoids (by rintro name t ⟨⟩) _
  obtain ⟨honest, -, accounted⟩ :=
    (success_hides_no_failure (.still .empty) .initial t).1 failingInside r h
  have failed : r.success = false := by simpa using failed
  exact ⟨r, t, h, failed, honest, accounted havoids r r.self_mem_nodes failed⟩

end Assay
