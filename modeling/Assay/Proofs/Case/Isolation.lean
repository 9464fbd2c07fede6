/- digest: The runs of a test case see nothing of each other but the globals, and of all that they
   write the variables that the case was given receive the globals alone. -/

import Assay.Proofs.Case.Runs
import Assay.Proofs.Exec.Invariant

set_option autoImplicit false
set_option relaxedAutoImplicit false

namespace Assay

open Context (globalsRoot caseRoot)

/-- A run of a test case: the state that it starts in, its result and the state that it ends in. -/
structure CaseRun where
  before : RunState
  result : CaseResult
  after : RunState

namespace CaseRun

/-- The run is one of a case, with a dataset of the given name or with none. -/
def Ran (w : Surroundings) (c : TestCase) (dataset : Option String) (r : CaseRun) : Prop :=
  c.runOnce dataset w r.before = (.ok r.result, r.after)

/-- The state that the first `count` of several runs leave. -/
def stateAfter (s : RunState) : List CaseRun → Nat → RunState
  | r :: rest, count + 1 => stateAfter r.after rest count
  | _, _ => s

@[simp] theorem stateAfter_zero (s : RunState) (runs : List CaseRun) : stateAfter s runs 0 = s := by
  cases runs <;> rfl

end CaseRun

/-- What a run with a dataset starts from: the environment and the roots of the base, but for the
globals, which are those that were left before, and for the values of the dataset with their tokens
resolved in a namespace of just these roots. -/
structure Dataset.Opens (processVariable : String → Option String) (base previous : Context)
    (d : Dataset) (start : Context) : Prop where
  env : start.env = base.env
  globals : start.root? globalsRoot = previous.root? globalsRoot
  others : ∀ name, name ≠ globalsRoot → name ≠ caseRoot → start.root? name = base.root? name
  rootNames : start.rootNames =
    if caseRoot ∈ base.rootNames then base.rootNames else base.rootNames ++ [caseRoot]
  values : ∃ (inside : Context) (r : Token.Logged Json),
    inside.env = base.env ∧ inside.root? globalsRoot = previous.root? globalsRoot ∧
      (∀ name, name ≠ globalsRoot → inside.root? name = base.root? name) ∧
      inside.rootNames = base.rootNames ∧
      Token.resolveValue ⟨inside, processVariable⟩ (.object d.values) = .ok r ∧
      start.root? caseRoot = some r.value ∧ start.log = r.lines

/-- A namespace that has taken over the globals of another one and is otherwise the base. -/
structure Context.TookGlobals (base finished c : Context) : Prop where
  env : c.env = base.env
  log : c.log = base.log
  rootNames : c.rootNames = base.rootNames
  others : ∀ name, name ≠ globalsRoot → c.root? name = base.root? name
  globals : c.root? globalsRoot = finished.root? globalsRoot

/-- A base with the globals that are carried over, if there are any. -/
private def Context.withCarried (base : Context) (carried : Option Json) : Context :=
  match carried with
  | some globals => base.copy.putRoot globalsRoot globals
  | none => base.copy

section Start

variable {processVariable : String → Option String} {base previous start : Context}
  {carried : Option Json} {d : Dataset}

private theorem withCarried_env : (base.withCarried carried).env = base.env := by
  cases carried <;> rfl

private theorem withCarried_log : (base.withCarried carried).log = [] := by
  cases carried <;> rfl

private theorem withCarried_rootNames (hbase : base.WellFormed) :
    (base.withCarried carried).rootNames = base.rootNames := by
  cases carried with
  | none => rfl
  | some g => exact Context.rootNames_putRoot_of_mem (c := base.copy) hbase.globals

private theorem withCarried_globals :
    (base.withCarried carried).root? globalsRoot = carried.or (base.root? globalsRoot) := by
  cases carried with
  | none => rfl
  | some g => exact Context.root?_putRoot_self Context.globalsRoot_ne_envRoot

private theorem withCarried_others {name : String} (h : name ≠ globalsRoot) :
    (base.withCarried carried).root? name = base.root? name := by
  cases carried with
  | none => rfl
  | some g => exact Context.root?_putRoot_of_ne (c := base.copy) h

private theorem enter_eq_ok (h : d.enter processVariable base carried = .ok start) :
    ∃ r, Token.resolveValue ⟨base.withCarried carried, processVariable⟩ (.object d.values) = .ok r ∧
      start = ((base.withCarried carried).logLines r.lines).putRoot caseRoot r.value := by
  change (Token.resolveValue ⟨base.withCarried carried, processVariable⟩ (.object d.values)).map
    (fun r => ((base.withCarried carried).logLines r.lines).putRoot caseRoot r.value) = _ at h
  cases hr : Token.resolveValue ⟨base.withCarried carried, processVariable⟩ (.object d.values) with
  | error e => simp [hr, Except.map] at h
  | ok r =>
    simp only [hr, Except.map, Except.ok.injEq] at h
    exact ⟨r, rfl, h.symm⟩

private theorem Dataset.opens_of_enter (hbase : base.WellFormed)
    (hcarried : carried.or (base.root? globalsRoot) = previous.root? globalsRoot)
    (h : d.enter processVariable base carried = .ok start) :
    d.Opens processVariable base previous start := by
  obtain ⟨r, hr, rfl⟩ := enter_eq_ok h
  refine ⟨withCarried_env, ?_, ?_, ?_, base.withCarried carried, r, withCarried_env, ?_, ?_, ?_, hr,
    ?_, ?_⟩
  · rw [Context.root?_putRoot_of_ne Context.caseRoot_ne_globalsRoot.symm, Context.logLines_root?,
      withCarried_globals, hcarried]
  · intro name hglobals hcase
    rw [Context.root?_putRoot_of_ne hcase, Context.logLines_root?, withCarried_others hglobals]
  · split
    · rename_i present
      rw [Context.rootNames_putRoot_of_mem, Context.logLines_rootNames, withCarried_rootNames hbase]
      rwa [Context.logLines_rootNames, withCarried_rootNames hbase]
    · rename_i absent
      rw [Context.rootNames_putRoot_of_not_mem, Context.logLines_rootNames,
        withCarried_rootNames hbase]
      rwa [Context.logLines_rootNames, withCarried_rootNames hbase]
  · rw [withCarried_globals, hcarried]
  · exact fun name hname => withCarried_others hname
  · exact withCarried_rootNames hbase
  · exact Context.root?_putRoot_self Context.caseRoot_ne_envRoot
  · rw [Context.putRoot_log, Context.logLines, withCarried_log, List.nil_append]

private theorem Dataset.wellFormed_of_enter (hbase : base.WellFormed)
    (h : d.enter processVariable base carried = .ok start) : start.WellFormed := by
  obtain ⟨r, -, rfl⟩ := enter_eq_ok h
  have inherited : (base.withCarried carried).WellFormed :=
    hbase.of_rootNames_eq (withCarried_rootNames hbase)
  have logged : ((base.withCarried carried).logLines r.lines).WellFormed :=
    inherited.of_rootNames_eq rfl
  exact logged.putRoot (Or.inl Context.caseRoot_ne_envRoot) _

private theorem Dataset.Opens.of_copy (h : d.Opens processVariable base.copy previous start) :
    d.Opens processVariable base previous start :=
  ⟨h.env, h.globals, h.others, h.rootNames, h.values⟩

end Start

namespace TestCase

open CaseRun (stateAfter)

/-- The foreign work in a case leaves namespaces well formed. -/
def ForeignWellFormed (c : TestCase) : Prop :=
  ∀ step ∈ c.steps, step.ForeignAll (ForeignWork.Keeps Context.WellFormed)

variable {c : TestCase} {w : Surroundings} {s t : RunState} {base : Context}

private theorem runDatasets_eq_ok (hbase : base.WellFormed) (hforeign : c.ForeignWellFormed)
    (prior : RunState) {datasets : List Dataset} {carried last : Option Json}
    {results : List CaseResult}
    (hprior : { prior with context := s.context } = s)
    (hcarried : carried.or (base.root? globalsRoot) = prior.context.root? globalsRoot)
    (h : c.runDatasets base carried datasets w s = (.ok (results, last), t)) :
    ∃ runs : List CaseRun, results = runs.map (·.result) ∧ runs.length = datasets.length ∧
      (∀ i d, datasets[i]? = some d → ∃ r, runs[i]? = some r ∧ r.Ran w c (some d.name) ∧
        r.before = { stateAfter prior runs i with context := r.before.context } ∧
        d.Opens w.processVariable base (stateAfter prior runs i).context r.before.context) ∧
      last.or (base.root? globalsRoot) =
        (stateAfter prior runs runs.length).context.root? globalsRoot ∧
      t = { stateAfter prior runs runs.length with context := s.context } := by
  induction datasets generalizing carried s prior results with
  | nil =>
    obtain ⟨rfl, rfl, rfl⟩ := runDatasets_nil_eq_ok.mp h
    exact ⟨[], rfl, rfl, by simp, by simpa using hcarried, by simpa using hprior.symm⟩
  | cons d rest ih =>
    obtain ⟨start, result, u, others, hstart, hu, hrest, rfl⟩ := runDatasets_cons_eq_ok.mp h
    -- The run may have ended in a fault: its globals are still there, and they are carried on.
    have hopen := Dataset.opens_of_enter hbase hcarried hstart
    have hafter : u.context.WellFormed :=
      (keeps_runOnce Context.stable_wellFormed hforeign (some d.name)).of_run
        (Dataset.wellFormed_of_enter hbase hstart) hu
    obtain ⟨g, hg⟩ := hafter.root?_globals
    obtain ⟨runs, rfl, hlength, hruns, hlast, rfl⟩ :=
      ih u rfl (by rw [hg]; rfl) hrest
    refine ⟨⟨{ s with context := start }, result, u⟩ :: runs, rfl, by simp [hlength], ?_, hlast, rfl⟩
    intro i e hi
    cases i with
    | zero =>
      obtain rfl : d = e := by simpa using hi
      refine ⟨_, rfl, hu, ?_, ?_⟩
      · rw [← hprior]
        simp
      · simpa using hopen
    | succ i =>
      obtain ⟨r, hr, ran, before, opens⟩ := hruns i e (by simpa using hi)
      exact ⟨r, by simpa using hr, ran, before, opens⟩

private theorem carry_eq_ok (hs : s.context.WellFormed) {globals : Option Json} {finished : Context}
    (hglobals : globals.or (s.context.root? globalsRoot) = finished.root? globalsRoot)
    (h : carry globals w s = (.ok (), t)) :
    s.context.TookGlobals finished t.context := by
  cases globals with
  | none =>
    obtain ⟨-, rfl⟩ := Exec.pure_eq_ok.mp h
    exact ⟨rfl, rfl, rfl, fun _ _ => rfl, hglobals⟩
  | some v =>
    obtain ⟨-, rfl⟩ := Exec.end_ok_inj.mp h
    refine ⟨rfl, rfl, Context.rootNames_putRoot_of_mem hs.globals, fun name hname => ?_, ?_⟩
    · exact Context.root?_putRoot_of_ne hname
    · exact (Context.root?_putRoot_self Context.globalsRoot_ne_envRoot).trans hglobals

/-- The runs of a case, each apart from the others. A case without datasets runs once from a copy of
the variables that it was given. With datasets, each run starts from these variables, but with the
globals that the run before it left and with the values of its dataset. In the end the globals of
the last run are all that these variables took over. -/
structure RunsApart (c : TestCase) (w : Surroundings) (s t : RunState) (runs : List CaseRun) :
    Prop where
  single : c.datasets = [] → ∃ r, runs = [r] ∧ r.Ran w c none ∧
    r.before = { s with context := { s.context with log := [] } }
  count : c.datasets ≠ [] → runs.length = c.datasets.length
  each : ∀ i d, c.datasets[i]? = some d → ∃ r, runs[i]? = some r ∧ r.Ran w c (some d.name) ∧
    r.before = { stateAfter s runs i with context := r.before.context } ∧
    d.Opens w.processVariable s.context (stateAfter s runs i).context r.before.context
  base : s.context.TookGlobals (stateAfter s runs runs.length).context t.context

/-- Whatever the steps of a case do, and also where a run faults, its runs are apart. -/
theorem runs_are_isolated {results : List CaseResult} (hbase : s.context.WellFormed)
    (hforeign : c.ForeignWellFormed) (h : c.run w s = (.ok results, t)) :
    ∃ runs : List CaseRun, results = runs.map (·.result) ∧ c.RunsApart w s t runs := by
  have hcopy : s.context.copy.WellFormed := hbase.of_rootNames_eq rfl
  rcases run_eq_ok h with ⟨hempty, result, u, hu, hcarry, rfl⟩ | ⟨hnonempty, last, u, hruns, hcarry⟩
  · have hafter : u.context.WellFormed :=
      (keeps_runOnce Context.stable_wellFormed hforeign none).of_run hcopy hu
    obtain ⟨g, hg⟩ := hafter.root?_globals
    have left : (u.context.root? globalsRoot).or (s.context.root? globalsRoot) =
        u.context.root? globalsRoot := by
      rw [hg]
      rfl
    refine ⟨[⟨_, result, u⟩], rfl, fun _ => ⟨_, rfl, hu, rfl⟩, ?_, ?_, ?_⟩
    · exact fun several => absurd hempty several
    · simp [hempty]
    · exact carry_eq_ok (s := { u with context := s.context }) hbase left hcarry
  · obtain ⟨runs, hresults, hlength, each, hlast, rfl⟩ :=
      runDatasets_eq_ok hcopy hforeign s rfl rfl hruns
    refine ⟨runs, hresults, ?_, fun _ => hlength, ?_, ?_⟩
    · exact fun single => absurd single hnonempty
    · intro i d hi
      obtain ⟨r, hr, ran, before, opens⟩ := each i d hi
      exact ⟨r, hr, ran, before, opens.of_copy⟩
    · exact carry_eq_ok (s := { stateAfter s runs runs.length with context := s.context }) hbase hlast
        hcarry

/-- A case with two datasets that takes over a value into the globals, sets a root of its own and
then faults. -/
def breakingOff : TestCase :=
  { name := "breaking off", description := none
    steps := [.check (.saving [("$.globals.seen", .string "{{$.case.value}}"),
        ("$.mine", .string "{{$.globals.seen}}")]),
      .each (.saving []) (.nat 3) "$.item" "$.index" []]
    datasets := [⟨"first", [("value", .nat 1)]⟩, ⟨"second", [("value", .nat 2)]⟩] }

/-- Its runs are apart, although both fault. -/
theorem breakingOff_runs_are_isolated :
    ∃ results t runs, breakingOff.run (.still .empty) .initial = (.ok results, t) ∧
      results.all (·.error.isSome) = true ∧ results = runs.map (·.result) ∧
      breakingOff.RunsApart (.still .empty) .initial t runs := by
  have evaluated : Exec.yields breakingOff.run (fun results => results.all (·.error.isSome))
      (.still .empty) .initial = true := by decide +kernel
  obtain ⟨results, t, h, faulted⟩ := Exec.exists_of_yields evaluated
  have hforeign : breakingOff.ForeignWellFormed := by
    intro step hstep
    simp only [breakingOff, List.mem_cons, List.not_mem_nil, or_false] at hstep
    rcases hstep with rfl | rfl
    · trivial
    · trivial
  obtain ⟨runs, hresults, apart⟩ :=
    runs_are_isolated (Context.wellFormed_withEnv _) hforeign h
  exact ⟨results, t, runs, h, faulted, hresults, apart⟩

end TestCase

end Assay
