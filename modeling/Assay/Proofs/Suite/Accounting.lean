/- digest: Accounting of a suite: every selected case leaves one result, or one for each of its
   datasets, and in each result the steps that ran and those that a fault kept from running are the
   steps of the case. -/

import Assay.Proofs.Result.Success
import Assay.Proofs.Text.Lowering

set_option autoImplicit false
set_option relaxedAutoImplicit false

namespace Assay

open Exec

namespace Exec

variable {α β : Type}

/-- A computation is completed or stops for another reason than a fault. -/
def Faultless (x : Exec α) : Prop :=
  ∀ (w : Surroundings) (s t : RunState) (f : Fault), x w s ≠ (.error (.fault f), t)

theorem faultless_pure (a : α) : Faultless (pure a) := fun _ _ _ _ => by simp

theorem Faultless.bind {x : Exec α} {f : α → Exec β} (hx : Faultless x)
    (hf : ∀ a, Faultless (f a)) : Faultless (x >>= f) := by
  intro w s t fault h
  rcases hrun : x w s with ⟨(e | a), u⟩
  · rw [bind_of_error hrun] at h
    obtain ⟨rfl, rfl⟩ := end_error_inj.mp h
    exact hx w s _ fault hrun
  · rw [bind_of_ok hrun] at h
    exact hf a w u t fault h

theorem faultless_attempt (x : Exec α) : Faultless (attempt x) := by
  intro w s t fault h
  rcases hrun : x w s with ⟨(e | a), u⟩
  · cases e with
    | fault f => simp [attempt_of_fault hrun] at h
    | breakdown _ | cancelled _ | exhausted => simp [attempt, hrun] at h
  · simp [attempt_of_ok hrun] at h

private theorem Faultless.apart {x : Exec α} (hx : Faultless x) (c : Context) :
    Faultless (apart c x) := by
  intro w s t fault h
  unfold Exec.apart at h
  rcases hrun : x w { s with context := c } with ⟨(e | a), u⟩
  · simp only [hrun, end_error_inj] at h
    obtain ⟨rfl, -⟩ := h
    exact hx w _ u fault hrun
  · simp [hrun] at h

private theorem Faultless.amid {x : Exec α} (hx : Faultless x)
    (change : Surroundings → Surroundings) :
    Faultless (amid change x) := fun w s t fault => hx (change w) s t fault

theorem faultless_inTurn {run : β → Exec α} (h : ∀ b, Faultless (run b)) (l : List β) :
    Faultless (inTurn run l) := by
  induction l with
  | nil => exact faultless_pure []
  | cons b rest ih => exact (h b).bind fun a => ih.bind fun others => faultless_pure _

private theorem faultless_unrefused (r : Except Selector.Refusal α) : Faultless (unrefused r) := by
  cases r with
  | ok a => exact faultless_pure a
  | error refusal => exact fun _ _ _ _ => by simp [unrefused]

private theorem faultless_context : Faultless context := fun _ _ _ _ => by simp

private theorem faultless_setContext (c : Context) :
    Faultless (setContext c) := fun _ _ _ _ => by simp

theorem faultless_surroundings : Faultless surroundings := fun _ _ _ _ => by simp

theorem faultless_takeLog : Faultless takeLog := fun _ _ _ _ => by simp

end Exec

namespace TestCase

variable {c : TestCase}

private theorem faultless_runSteps (steps : List Step) : Faultless (runSteps steps) := by
  induction steps with
  | nil => exact faultless_pure _
  | cons step rest ih =>
    refine (faultless_attempt step.run).bind fun r => ?_
    cases r with
    | ok result => exact ih.bind fun _ => faultless_pure _
    | error fault => exact faultless_takeLog.bind fun _ => faultless_pure _

private theorem faultless_runOnce (dataset : Option String) : Faultless (c.runOnce dataset) :=
  (faultless_runSteps c.steps).bind fun _ => faultless_pure _

private theorem faultless_runDatasets (base : Context) (carried : Option Json)
    (datasets : List Dataset) :
    Faultless (c.runDatasets base carried datasets) := by
  induction datasets generalizing carried with
  | nil => exact faultless_pure _
  | cons d rest ih =>
    refine faultless_surroundings.bind fun w => (faultless_unrefused _).bind fun start => ?_
    refine ((faultless_runOnce (some d.name)).apart start).bind fun r => ?_
    exact (ih _).bind fun _ => faultless_pure _

private theorem faultless_carry (globals : Option Json) : Faultless (carry globals) := by
  cases globals with
  | none => exact faultless_pure _
  | some v => exact faultless_context.bind fun c => faultless_setContext _

private theorem faultless_run (c : TestCase) : Faultless c.run := by
  refine faultless_context.bind fun base => ?_
  split
  · refine ((faultless_runOnce none).apart _).bind fun r => ?_
    exact (faultless_carry _).bind fun _ => faultless_pure _
  · refine (faultless_runDatasets _ _ _).bind fun r => ?_
    exact (faultless_carry _).bind fun _ => faultless_pure _

end TestCase

def StepResult.IsFault (r : StepResult) : Prop :=
  ∃ frame fault logs, r = .ofFault frame fault logs

/-- A result carries the names of a step. -/
structure StepResult.Bears (frame : StepFrame) (r : StepResult) : Prop where
  id : r.id = frame.id
  name : r.name = frame.label
  kind : r.kind = frame.kind

private theorem Loop.gives_details (condition : Assertion) (body : LoopBody)
    (timeout start patience done : Nat) (inner : List StepResult) :
    Gives (fun o => o.details ≠ none)
      (Loop.rounds condition body timeout start patience done inner) := by
  have closed (o : Outcome) (details : Members Json) (inner : List StepResult) :
      Gives (fun o => o.details ≠ none) (pure ((o.withDetails details).withInner inner)) := by
    refine gives_pure ?_
    rw [Outcome.details_withInner]
    exact Option.some_ne_none _
  induction patience generalizing done inner with
  | zero => exact gives_throw _
  | succ patience ih =>
    refine gives_bind fun last => ?_
    split
    · exact closed _ _ _
    · refine gives_bind fun time => ?_
      split
      · exact closed _ _ _
      · refine gives_bind fun results => ?_
        cases results with
        | none => exact closed _ _ _
        | some results => exact gives_bind fun _ => ih (done + 1) _

namespace Step

private theorem gives_work_telling (body : List Step → Exec (List StepResult)) (step : Step) :
    Gives (fun o => o.success = false → o.details = none → o.inner ≠ []) (step.work body) := by
  cases hstep : step.isLoop with
  | false =>
    have layer := gives_work_exact (P := fun _ => True) (fun _ _ => trivial)
      (fun steps => (gives_true (body steps)).mono fun _ _ => fun _ _ _ _ => trivial) hstep
    refine layer.mono fun o ⟨ho, _⟩ failed _ none => ?_
    have passed : o.success = true := ho.mpr (by simp [none])
    rw [passed] at failed
    cases failed
  | true =>
    cases step with
    | loop frame condition timeout steps =>
      refine gives_bind fun timeout => gives_bind fun start => gives_bind fun w => ?_
      exact (Loop.gives_details _ _ _ _ _ _ _).mono fun o ho _ none => absurd none ho
    | _ => cases hstep

private theorem gives_run_complete (step : Step) :
    Gives (fun r => r.Bears step.frame ∧ ¬ r.IsFault) step.run := by
  refine gives_bind fun w => ?_
  cases w.depth with
  | zero => exact gives_throw _
  | succ levels =>
    refine ((gives_work_telling _ step).naming _).bind fun o ho => ?_
    refine gives_bind fun changes => gives_bind fun findings => gives_bind fun logs => ?_
    refine gives_pure ⟨⟨rfl, rfl, rfl⟩, ?_⟩
    rintro ⟨frame, fault, lines, equal⟩
    -- The result of a fault failed with nothing to show, which no completed work does.
    simp only [StepResult.ofFault, StepResult.mk.injEq] at equal
    obtain ⟨-, -, -, failed, -, -, rfl, -, details, inner, -⟩ := equal
    exact ho (by simpa using failed) details inner

end Step

/-- The results that steps leave in a run: one for each step in order, up to that of a fault, which
is the last. -/
inductive TestCase.Leaves : List Step → List StepResult → Option Fault → Prop
  | done : Leaves [] [] none
  | broke (step : Step) (rest : List Step) (fault : Fault) (logs : List String) :
    Leaves (step :: rest) [.ofFault step.frame fault logs] (some fault)
  | completed {step : Step} {rest : List Step} {r : StepResult} {results : List StepResult}
      {fault : Option Fault} (bears : r.Bears step.frame) (complete : ¬ r.IsFault)
      (later : Leaves rest results fault) : Leaves (step :: rest) (r :: results) fault

/-- A result of a run of a case accounts for all steps of the case: those that have a result of
their own stand in order, a fault can only be the last of them and is the error of the run, and only
after an error are steps skipped. -/
structure CaseResult.Accounts (c : TestCase) (r : CaseResult) : Prop where
  total : r.steps.length + r.skipped = c.steps.length
  bears : ∀ (k : Nat) (x : StepResult), r.steps[k]? = some x →
    ∃ step, c.steps[k]? = some step ∧ x.Bears step.frame
  error_iff : r.error ≠ none ↔ ∃ last : StepResult, r.steps.getLast? = some last ∧ last.IsFault
  error_eq : ∀ last : StepResult, r.steps.getLast? = some last → last.IsFault → r.error = last.error
  fault_last : ∀ (k : Nat) (x : StepResult), r.steps[k]? = some x → x.IsFault → k + 1 = r.steps.length
  skipped : 0 < r.skipped → r.error ≠ none

namespace TestCase

variable {c : TestCase} {w : Surroundings} {s t : RunState}

section Leaves

variable {steps : List Step} {results : List StepResult} {fault : Option Fault}

private theorem leaves_of_runSteps (h : runSteps steps w s = (.ok (results, fault), t)) :
    Leaves steps results fault := by
  induction steps generalizing s t results with
  | nil =>
    obtain ⟨equal, -⟩ := pure_eq_ok.mp h
    cases equal
    exact .done
  | cons step rest ih =>
    rw [runSteps, bind_eq_ok] at h
    obtain ⟨r, u, hr, h⟩ := h
    rcases attempt_eq_ok.mp hr with ⟨first, rfl, hfirst⟩ | ⟨f, rfl, -⟩
    · obtain ⟨⟨others, last⟩, v, hrest, hend⟩ := bind_eq_ok.mp h
      obtain ⟨equal, -⟩ := pure_eq_ok.mp hend
      cases equal
      obtain ⟨bears, complete⟩ := step.gives_run_complete _ _ _ _ hfirst
      exact .completed bears complete (ih hrest)
    · obtain ⟨logs, v, -, hend⟩ := bind_eq_ok.mp h
      obtain ⟨equal, -⟩ := pure_eq_ok.mp hend
      cases equal
      exact .broke step rest f logs

private theorem Leaves.length_le (h : Leaves steps results fault) :
    results.length ≤ steps.length := by
  induction h with
  | done => exact Nat.le_refl 0
  | broke step rest fault logs => simp
  | completed bears complete later ih => simpa using ih

private theorem Leaves.length_eq (h : Leaves steps results none) :
    results.length = steps.length := by
  generalize hfault : (none : Option Fault) = fault at h
  induction h with
  | done => rfl
  | broke step rest fault logs => cases hfault
  | completed bears complete later ih => simpa using ih hfault

private theorem Leaves.bears (h : Leaves steps results fault) :
    ∀ (k : Nat) (x : StepResult), results[k]? = some x →
      ∃ step, steps[k]? = some step ∧ x.Bears step.frame := by
  induction h with
  | done => simp
  | broke step rest fault logs =>
    intro k x hx
    obtain ⟨rfl, rfl⟩ : k = 0 ∧ StepResult.ofFault step.frame fault logs = x := by
      simpa [List.getElem?_singleton] using hx
    exact ⟨step, rfl, rfl, rfl, rfl⟩
  | completed bears complete later ih =>
    intro k x hx
    cases k with
    | zero =>
      obtain rfl := by simpa using hx
      exact ⟨_, rfl, bears⟩
    | succ k => simpa using ih k x (by simpa using hx)

private theorem Leaves.fault_last (h : Leaves steps results fault) :
    ∀ (k : Nat) (x : StepResult), results[k]? = some x → x.IsFault → k + 1 = results.length := by
  induction h with
  | done => simp
  | broke step rest fault logs =>
    intro k x hx _
    have first : k < 1 := by simpa using (List.getElem?_eq_some_iff.mp hx).1
    simp
    omega
  | completed bears complete later ih =>
    intro k x hx hfault
    cases k with
    | zero =>
      obtain rfl := by simpa using hx
      exact absurd hfault complete
    | succ k => simpa using ih k x (by simpa using hx) hfault

private theorem Leaves.getLast (h : Leaves steps results fault) :
    (∃ f frame logs, fault = some f ∧ results.getLast? = some (.ofFault frame f logs)) ∨
      (fault = none ∧ ∀ last, results.getLast? = some last → ¬ last.IsFault) := by
  -- The last of several results is that of the rest, and a single one was completed or broke.
  induction h with
  | done => exact Or.inr ⟨rfl, by simp⟩
  | broke step rest fault logs => exact Or.inl ⟨fault, step.frame, logs, rfl, rfl⟩
  | completed bears complete later ih =>
    rename_i r results fault
    cases results with
    | nil =>
      refine Or.inr ⟨?_, ?_⟩
      · cases later
        rfl
      · intro last hlast
        obtain rfl : r = last := by simpa using hlast
        exact complete
    | cons next others => simpa only [List.getLast?_cons_cons] using ih

end Leaves

private theorem accounts_of_runOnce {dataset : Option String} {r : CaseResult}
    (h : c.runOnce dataset w s = (.ok r, t)) :
    r.name = c.name ∧ r.dataset = dataset ∧ r.Accounts c := by
  obtain ⟨⟨results, fault⟩, u, hsteps, hend⟩ := bind_eq_ok.mp h
  obtain ⟨rfl, -⟩ := pure_eq_ok.mp hend
  have leaves := leaves_of_runSteps hsteps
  have some_iff : fault.map Fault.message ≠ none ↔ fault ≠ none := by cases fault <;> simp
  refine ⟨rfl, rfl, ?_, leaves.bears, ?_, ?_, leaves.fault_last, ?_⟩
  · have bound := leaves.length_le
    change results.length + (c.steps.length - results.length) = c.steps.length
    omega
  · rw [some_iff]
    rcases leaves.getLast with ⟨f, frame, logs, rfl, hlast⟩ | ⟨rfl, hlast⟩
    · simpa [hlast] using ⟨frame, f, logs, rfl⟩
    · simpa using hlast
  · intro last heq hfault
    rcases leaves.getLast with ⟨f, frame, logs, rfl, hlast⟩ | ⟨rfl, hlast⟩
    · obtain rfl := Option.some.inj (heq.symm.trans hlast)
      rfl
    · exact absurd hfault (hlast last heq)
  · intro skipped
    rw [some_iff]
    rintro rfl
    have all := leaves.length_eq
    change 0 < c.steps.length - results.length at skipped
    omega

/-- The runs that a case asks for, each with the name of its dataset: one without datasets,
otherwise one for each in the order of their declaration. -/
def runs (c : TestCase) : List (TestCase × Option String) :=
  if c.datasets.isEmpty then [(c, none)] else c.datasets.map fun d => (c, some d.name)

/-- A result is that of a run that was asked for, and accounts for all its steps. -/
def Answers (run : TestCase × Option String) (r : CaseResult) : Prop :=
  r.name = run.1.name ∧ r.dataset = run.2 ∧ r.Accounts run.1

private theorem answers_of_runDatasets {base : Context} {carried last : Option Json}
    {datasets : List Dataset} {results : List CaseResult}
    (h : c.runDatasets base carried datasets w s = (.ok (results, last), t)) :
    List.Forall₂ Answers (datasets.map fun d => (c, some d.name)) results := by
  induction datasets generalizing carried s results with
  | nil =>
    obtain ⟨rfl, -, -⟩ := runDatasets_nil_eq_ok.mp h
    exact .nil
  | cons d rest ih =>
    obtain ⟨start, first, u, others, -, hrun, hrest, rfl⟩ := runDatasets_cons_eq_ok.mp h
    exact .cons (accounts_of_runOnce hrun) (ih hrest)

private theorem answers_of_run {results : List CaseResult} (h : c.run w s = (.ok results, t)) :
    List.Forall₂ Answers c.runs results := by
  rcases run_eq_ok h with ⟨none, only, u, hrun, -, rfl⟩ | ⟨some, last, u, hruns, -⟩
  · rw [runs, none]
    exact .cons (accounts_of_runOnce hrun) .nil
  · rw [runs, if_neg (by simpa using some)]
    exact answers_of_runDatasets hruns

private theorem answers_of_inTurn {cases : List TestCase} {results : List (List CaseResult)}
    (h : inTurn run cases w s = (.ok results, t)) :
    List.Forall₂ Answers (cases.flatMap runs) results.flatten := by
  induction cases generalizing s results with
  | nil =>
    obtain ⟨rfl, -⟩ := inTurn_nil_eq_ok.mp h
    exact .nil
  | cons c rest ih =>
    obtain ⟨first, u, others, hfirst, hrest, rfl⟩ := inTurn_cons_eq_ok.mp h
    exact List.rel_append (answers_of_run hfirst) (ih hrest)

end TestCase

namespace Runner

variable {runner : Runner} {suite : Suite} {folder : String} {w : Surroundings} {s t : RunState}

/-- The part that a filter looks for stands somewhere in a name, both in small letters. Without a
filter all names match. -/
def Matches (r : Runner) (name : String) : Prop :=
  ∀ part, r.filter = some part → (Text.lower part).toList <:+: (Text.lower name).toList

private theorem selects_iff {name : String} : runner.selects name = true ↔ runner.Matches name := by
  rw [selects, Matches]
  cases runner.filter with
  | none => simp
  | some part => simp [Text.contains, Text.occursIn_iff_infix]

instance (name : String) : Decidable (runner.Matches name) := decidable_of_iff _ selects_iff

private theorem selected_eq (runner : Runner) (suite : Suite) :
    runner.selected suite = suite.tests.filter fun c => runner.Matches c.name := by
  simp only [selected, ← selects_iff, Bool.decide_eq_true]

private theorem run_eq_fault {f : Fault}
    (h : runner.run suite folder w s = (.error (.fault f), t)) :
    TemplateStore.loadAll runner.vocabulary folder [] suite.sources w s =
      (.error (.fault f), t) := by
  rcases hload : TemplateStore.loadAll runner.vocabulary folder [] suite.sources w s with
    ⟨(e | store), u⟩
  · rw [run, bind_of_error hload] at h
    obtain ⟨rfl, rfl⟩ := end_error_inj.mp h
    rfl
  · rw [run, bind_of_ok hload] at h
    have cases := faultless_inTurn TestCase.faultless_run (runner.selected suite)
    exact absurd h (((cases.amid _).apart _).bind (fun _ => faultless_pure _) w u t f)

private theorem answers_of_run {result : SuiteResult}
    (h : runner.run suite folder w s = (.ok result, t)) :
    List.Forall₂ TestCase.Answers ((runner.selected suite).flatMap TestCase.runs) result.cases := by
  obtain ⟨store, u, -, h⟩ := bind_eq_ok.mp h
  obtain ⟨⟨results, after⟩, v, hcases, hend⟩ := bind_eq_ok.mp h
  obtain ⟨rfl, -⟩ := pure_eq_ok.mp hend
  obtain ⟨u', hrun, -, -⟩ := apart_eq_ok.mp hcases
  exact TestCase.answers_of_inTurn hrun

private theorem titles_of_answers {asked : List (TestCase × Option String)}
    {results : List CaseResult}
    (h : List.Forall₂ TestCase.Answers asked results) :
    results.map (fun r => (r.name, r.dataset)) = asked.map fun run => (run.1.name, run.2) := by
  induction h with
  | nil => rfl
  | cons answers _ ih =>
    obtain ⟨name, dataset, -⟩ := answers
    rw [List.map_cons, List.map_cons, ih, name, dataset]

/-- A run of a suite in which nothing breaks down and which ends either faults over the loading of
the templates or loses and repeats nothing: the results answer one by one the runs that the cases
with a matching name ask for, each accounts for all steps of its case, and in any other run of the
suite, with whatever faults, the results are as many and in the same order. -/
theorem run_accounts (runner : Runner) (suite : Suite) (folder : String) (w : Surroundings)
    (s : RunState)
    (hends : ∀ e t, runner.run suite folder w s = (.error e, t) → ∃ f, e = .fault f) :
    (∃ f t, TemplateStore.loadAll runner.vocabulary folder [] suite.sources w s =
        (.error (.fault f), t) ∧ runner.run suite folder w s = (.error (.fault f), t)) ∨
    ∃ result t, runner.run suite folder w s = (.ok result, t) ∧
      List.Forall₂ TestCase.Answers
        ((suite.tests.filter fun c => runner.Matches c.name).flatMap TestCase.runs) result.cases ∧
      ∀ w' s' result' t', runner.run suite folder w' s' = (.ok result', t') →
        result'.cases.map (fun r => (r.name, r.dataset)) =
          result.cases.map fun r => (r.name, r.dataset) := by
  rcases hrun : runner.run suite folder w s with ⟨(e | result), t⟩
  · obtain ⟨f, rfl⟩ := hends e t hrun
    exact Or.inl ⟨f, t, run_eq_fault hrun, rfl⟩
  · have answers := answers_of_run hrun
    refine Or.inr ⟨result, t, rfl, selected_eq runner suite ▸ answers, fun w' s' result' t' hrun' => ?_⟩
    rw [titles_of_answers answers, titles_of_answers (answers_of_run hrun')]

/-- A suite with a case that faults in its middle, one that is not selected, and one with datasets
of which the second makes it fault. -/
def faultySuite : Suite :=
  let frame := StepFrame.saving []
  let pause (duration : Json) : Step := .wait frame duration
  { version := none, givenName := none, description := none, sources := [], env := [], globals := []
    tests :=
      [⟨"First of all", none, [.check frame, pause (.string "soon"), .check frame], []⟩,
        ⟨"other", none, [.check frame], []⟩,
        ⟨"the first again", none, [pause (.string "{{$.case.ms}}"), .check frame],
          [⟨"short", [("ms", .nat 0)]⟩, ⟨"wrong", [("ms", .string "soon")]⟩]⟩] }

def ofFirst : Runner := ⟨.standard, [], [], [], some "FIRST"⟩

theorem run_accounts_faultySuite :
    ∃ result t, ofFirst.run faultySuite "." (.still .empty) .initial = (.ok result, t) ∧
      result.cases.map (fun r => (r.title, r.steps.length, r.skipped)) =
        [("First of all", 2, 1), ("the first again [short]", 2, 0),
          ("the first again [wrong]", 1, 1)] ∧
      List.Forall₂ TestCase.Answers
        ((faultySuite.tests.filter fun c => ofFirst.Matches c.name).flatMap TestCase.runs)
        result.cases := by
  have evaluated : Exec.yields (ofFirst.run faultySuite ".")
      (fun result => result.cases.map (fun r => (r.title, r.steps.length, r.skipped)) ==
        [("First of all", 2, 1), ("the first again [short]", 2, 0),
          ("the first again [wrong]", 1, 1)]) (.still .empty) .initial = true := by decide +kernel
  obtain ⟨result, t, h, titles⟩ := Exec.exists_of_yields evaluated
  have accounts := run_accounts ofFirst faultySuite "." (.still .empty) .initial (by simp [h])
  rcases accounts with ⟨f, u, -, faulted⟩ | ⟨result', u, completed, answers, -⟩
  · simp [h] at faulted
  · obtain ⟨rfl, rfl⟩ := end_ok_inj.mp (h.symm.trans completed)
    exact ⟨result, t, h, by simpa using titles, answers⟩

end Runner

end Assay
