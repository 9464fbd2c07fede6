/- digest: Assertions only observe: steps that are equal but for their assertions send the same
   requests, leave the same variables, and fault alike or come to results that differ in verdicts
   alone. -/

import Assay.Proofs.Exec.Mirror
import Assay.Proofs.Result.Tree

set_option autoImplicit false
set_option relaxedAutoImplicit false

namespace Assay

open Exec

/-- Two frames are equal but for their assertions. -/
def StepFrame.SameButChecks (f f' : StepFrame) : Prop := f' = { f with checks := f'.checks }

/-- Two steps, none of them a loop under a condition, are equal but for their assertions, at any
depth. The names of the templates that they use have a property, whatever the tokens in them resolve
to. -/
inductive Step.SameButChecks (used : String → Prop) : Step → Step → Prop
  | wait {f f' : StepFrame} (duration : Json) (frame : f.SameButChecks f') :
    SameButChecks used (.wait f duration) (.wait f' duration)
  | check {f f' : StepFrame} (frame : f.SameButChecks f') :
    SameButChecks used (.check f) (.check f')
  | each {f f' : StepFrame} {steps steps' : List Step} (items : Json) (itemKey indexKey : String)
      (frame : f.SameButChecks f') (body : List.Forall₂ (SameButChecks used) steps steps') :
    SameButChecks used (.each f items itemKey indexKey steps)
      (.each f' items itemKey indexKey steps')
  | request {f f' : StepFrame} (call : Http.Call) (frame : f.SameButChecks f') :
    SameButChecks used (.request f call) (.request f' call)
  | use {f f' : StepFrame} (template : String) (arguments : Members Json)
      (frame : f.SameButChecks f')
      (name : ∀ (scope : Scope) (r : Token.Logged String),
        Token.resolveText scope template = .ok r → used r.value) :
    SameButChecks used (.use f template arguments) (.use f' template arguments)
  | foreign {f f' : StepFrame} (work : ForeignWork) (frame : f.SameButChecks f') :
    SameButChecks used (.foreign f work) (.foreign f' work)

/-- The templates that may be used are in both catalogs or in none, and equal but for assertions. -/
def TemplateCatalog.SameButChecks (used : String → Prop) (T T' : TemplateCatalog) : Prop :=
  ∀ name, used name → (∃ e, T.get name = .error e ∧ T'.get name = .error e) ∨
    ∃ t steps, T.get name = .ok t ∧ T'.get name = .ok { t with steps := steps } ∧
      List.Forall₂ (Step.SameButChecks used) t.steps steps

/-- Two results agree, at any depth, in all that does not come from assertions. -/
inductive StepResult.SameButVerdict : StepResult → StepResult → Prop
  | intro {r r' : StepResult} (id : r.id = r'.id) (name : r.name = r'.name)
      (kind : r.kind = r'.kind) (changes : r.changes = r'.changes)
      (details : r.details = r'.details)
      (inner : List.Forall₂ SameButVerdict r.inner r'.inner) : SameButVerdict r r'

/-- The work of two steps came to the same but for the verdicts inside it. -/
structure Outcome.SameButVerdict (o o' : Outcome) : Prop where
  changes : o.changes = o'.changes
  details : o.details = o'.details
  inner : List.Forall₂ StepResult.SameButVerdict o.inner o'.inner

open StepResult (SameButVerdict)

private theorem Outcome.SameButVerdict.withInner {inner inner' : List StepResult}
    (h : List.Forall₂ StepResult.SameButVerdict inner inner') (o : Outcome) :
    (o.withInner inner).SameButVerdict (o.withInner inner') where
  changes := by rw [changes_withInner, changes_withInner]
  details := by rw [details_withInner, details_withInner]
  inner := by rwa [inner_withInner, inner_withInner]

private theorem Outcome.SameButVerdict.refl {o : Outcome} (h : o.inner = []) : o.SameButVerdict o :=
  ⟨rfl, rfl, by rw [h]; exact .nil⟩

private theorem Http.Call.gives_run_plain (call : Http.Call) :
    Gives (fun o => o.inner = []) call.run :=
  gives_bind fun _ => gives_bind fun _ => gives_bind fun _ => gives_pure rfl

namespace Step

private theorem gives_runForeign_plain (work : ForeignWork) : Gives (fun o => o.inner = [])
    (runForeign work) := by
  refine gives_bind fun c => gives_bind fun w => ?_
  split
  · exact gives_bind fun _ => gives_pure rfl
  · exact gives_throw _

end Step

private theorem Exec.check_all_ends (checks : List Assertion) (w : Surroundings) (s : RunState) :
    Broken (inTurn check checks w s) ∨ ∃ findings lines,
      inTurn check checks w s = (.ok findings, { s with context := s.context.logLines lines }) := by
  induction checks generalizing s with
  | nil =>
    refine Or.inr ⟨[], [], ?_⟩
    simp [inTurn, Context.logLines]
  | cons a rest ih =>
    rcases hcheck : a.execute (scope w s) with e | ⟨finding, lines⟩
    · have ended : check a w s = (.error (.breakdown e.message), s) := resolving_of_error hcheck
      exact Or.inl (Broken.bind ⟨_, _, ended⟩)
    · have tested : check a w s = (.ok finding, { s with context := s.context.logLines lines }) :=
        resolving_of_ok hcheck
      rcases ih { s with context := s.context.logLines lines } with
        ⟨text, t, broken⟩ | ⟨findings, more, completed⟩
      · left
        rw [inTurn, bind_of_ok tested]
        exact Broken.bind ⟨text, t, broken⟩
      · refine Or.inr ⟨finding :: findings, lines ++ more, ?_⟩
        refine inTurn_cons_eq_ok.mpr ⟨finding, _, findings, tested, ?_, rfl⟩
        simpa [Context.logLines] using completed

private theorem Exec.mirror_checks {α : Type} {w w' : Surroundings} {Q : α → α → Prop}
    {checks checks' : List Assertion} {f f' : List Finding → List String → α}
    (h : ∀ findings findings' logs logs', Q (f findings logs) (f' findings' logs')) :
    Mirror w w' Q
      (inTurn check checks >>= fun findings => takeLog >>= fun logs => pure (f findings logs))
      (inTurn check checks' >>= fun findings => takeLog >>= fun logs => pure (f' findings logs)) := by
  intro s
  rcases check_all_ends checks w s with broken | ⟨findings, lines, tested⟩
  · exact Or.inl broken.bind
  · rcases check_all_ends checks' w' s with broken | ⟨findings', lines', tested'⟩
    · exact Or.inr (Or.inl broken.bind)
    · refine Or.inr (Or.inr ?_)
      rw [bind_of_ok tested, bind_of_ok tested']
      exact endAlike_of_ok rfl rfl (h _ _ _ _)

section Runs

variable {used : String → Prop} {w w' : Surroundings}

private theorem Each.mirror_rounds (hw : w' = { w with templates := w'.templates })
    {body body' : LoopBody}
    (hbody : Mirror w w' (List.Forall₂ SameButVerdict) body body') (itemPath indexPath : Path)
    (index : Nat) (items : List Json) :
    Mirror w w' (FaultsAlike (List.Forall₂ SameButVerdict))
      (Each.rounds itemPath indexPath body index items)
      (Each.rounds itemPath indexPath body' index items) := by
  induction items generalizing index with
  | nil => exact mirror_pure (Q := FaultsAlike _) .nil
  | cons item rest ih =>
    refine ((ordinary_blind.nested.write itemPath item).mirror hw).bind fun _ _ _ => ?_
    refine ((ordinary_blind.nested.write indexPath _).mirror hw).bind fun _ _ _ => ?_
    refine hbody.attempt.bind fun r r' hr => ?_
    rcases r with f | results <;> rcases r' with f' | results'
    · exact mirror_pure hr
    · exact hr.elim
    · exact hr.elim
    · refine (ih (index + 1)).bind fun r r' hrest => ?_
      rcases r with f | others <;> rcases r' with f' | others'
      · exact mirror_pure hrest
      · exact hrest.elim
      · exact hrest.elim
      · have round : SameButVerdict (.ofRound index results) (.ofRound index results') :=
          .intro rfl rfl rfl rfl rfl hr
        exact mirror_pure (Q := FaultsAlike _) (.cons round hrest)

private theorem Each.mirror_run (hw : w' = { w with templates := w'.templates })
    {body body' : LoopBody}
    (hbody : Mirror w w' (List.Forall₂ SameButVerdict) body body') (source : Json)
    (itemKey indexKey : String) :
    Mirror w w' Outcome.SameButVerdict (Each.run source itemKey indexKey body)
      (Each.run source itemKey indexKey body') := by
  refine ((ordinary_blind.nested.resolveValue source).mirror hw).bind fun source _ same => ?_
  subst same
  cases Each.items? source with
  | none => exact mirror_throw _
  | some items =>
    refine ((ordinary_blind.nested.readPath itemKey).mirror hw).bind fun itemPath _ same => ?_
    subst same
    refine ((ordinary_blind.nested.readPath indexKey).mirror hw).bind fun indexPath _ same => ?_
    subst same
    refine (ordinary_blind.context.mirror hw).bind fun c _ same => ?_
    subst same
    refine (ordinary_blind.context.mirror hw).bind fun d _ same => ?_
    subst same
    refine (Each.mirror_rounds hw hbody _ _ _ _).bind fun r r' hr => ?_
    refine ((ordinary_blind.nested.restore itemPath _).mirror hw).bind fun _ _ _ => ?_
    refine ((ordinary_blind.nested.restore indexPath _).mirror hw).bind fun _ _ _ => ?_
    rcases r with f | inner <;> rcases r' with f' | inner'
    · obtain rfl : f = f' := hr
      exact mirror_throw _
    · exact hr.elim
    · exact hr.elim
    · exact mirror_pure (Outcome.SameButVerdict.withInner hr _)

private theorem Use.mirror_expand (hw : w' = { w with templates := w'.templates })
    {body body' : List Step → Exec (List StepResult)} {t : Template} {steps : List Step}
    (hbody : Mirror w w' (List.Forall₂ SameButVerdict) (body t.steps) (body' steps)) (name : String)
    (arguments : Members Json) :
    Mirror w w' Outcome.SameButVerdict (Use.expand name t arguments body)
      (Use.expand name { t with steps := steps } arguments body') := by
  refine ((ordinary_blind.nested.ofDefinition (t.bind arguments)).mirror hw).bind fun parameters _ same => ?_
  subst same
  refine ((ordinary_blind.nested.enter parameters).mirror hw).bind fun inside _ same => ?_
  subst same
  refine ((hbody.naming _).apart inside).bind fun r r' hr => ?_
  obtain ⟨inner, after⟩ := r
  obtain ⟨inner', after'⟩ := r'
  obtain ⟨hinner, rfl⟩ : List.Forall₂ SameButVerdict inner inner' ∧ after = after' := hr
  refine ((ordinary_blind.nested.deliver _ _ _ _).mirror hw).bind fun d _ same => ?_
  subst same
  refine (ordinary_blind.context.mirror hw).bind fun c _ same => ?_
  subst same
  refine ((ordinary_blind.setContext _).mirror hw).bind fun _ _ _ => ?_
  refine ((ordinary_blind.nested.writeRoot _ _).mirror hw).bind fun _ _ _ => ?_
  exact mirror_pure (Outcome.SameButVerdict.withInner hinner _)

private theorem Use.mirror_run (hw : w' = { w with templates := w'.templates })
    (htemplates : w.templates.SameButChecks used w'.templates)
    {body body' : List Step → Exec (List StepResult)}
    (hbody : ∀ steps steps', List.Forall₂ (Step.SameButChecks used) steps steps' →
      Mirror w w' (List.Forall₂ SameButVerdict) (body steps) (body' steps'))
    {template : String} (hname : ∀ (scope : Scope) (r : Token.Logged String),
      Token.resolveText scope template = .ok r → used r.value) (arguments : Members Json) :
    Mirror w w' Outcome.SameButVerdict (Use.run template arguments body)
      (Use.run template arguments body') := by
  have names : Gives used (resolveText template) := by
    intro v s name t h
    obtain ⟨lines, resolved, -⟩ := resolving_eq_ok.mp h
    exact hname _ _ resolved
  refine ((ordinary_blind.nested.resolveText template).mirror_gives names hw).bind fun name _ hboth => ?_
  obtain ⟨rfl, hused⟩ := hboth
  refine mirror_surroundings_bind ?_
  rcases htemplates name hused with ⟨e, missing, missing'⟩ | ⟨t, steps, found, found', related⟩
  · rw [missing, missing']
    exact (mirror_throw (Q := fun _ _ => False) _).bind fun _ _ impossible => impossible.elim
  · rw [found, found']
    have looked : Mirror w w' (fun a b => a = t ∧ b = { t with steps := steps })
        (ofDefinition (.ok t)) (ofDefinition (.ok { t with steps := steps })) :=
      mirror_pure ⟨rfl, rfl⟩
    refine looked.bind fun a b hab => ?_
    obtain ⟨rfl, rfl⟩ := hab
    have resolving := ordinary_blind.nested.resolving (Token.ignoresLog_expandMembers arguments)
    refine (resolving.mirror hw).bind fun arguments _ same => ?_
    subst same
    exact Use.mirror_expand hw (hbody _ _ related) name arguments

namespace Step

variable {step step' : Step}

private theorem SameButChecks.frame (h : SameButChecks used step step') :
    step.frame.SameButChecks step'.frame := by
  cases h <;> assumption

private theorem mirror_work (hw : w' = { w with templates := w'.templates })
    (htemplates : w.templates.SameButChecks used w'.templates)
    {body body' : List Step → Exec (List StepResult)}
    (hbody : ∀ steps steps', List.Forall₂ (SameButChecks used) steps steps' →
      Mirror w w' (List.Forall₂ SameButVerdict) (body steps) (body' steps'))
    (h : SameButChecks used step step') :
    Mirror w w' Outcome.SameButVerdict (step.work body) (step'.work body') := by
  cases h with
  | wait duration frame =>
    refine ((ordinary_blind.nested.readMilliseconds duration _).mirror hw).bind fun milliseconds _ same => ?_
    subst same
    refine ((ordinary_blind.pause milliseconds).mirror hw).bind fun _ _ _ => ?_
    exact mirror_pure (Outcome.SameButVerdict.refl rfl)
  | check frame => exact mirror_pure (Outcome.SameButVerdict.refl rfl)
  | each items itemKey indexKey frame steps =>
    exact Each.mirror_run hw (hbody _ _ steps) items itemKey indexKey
  | request call frame =>
    refine ((ordinary_blind.working.call call).mirror_gives call.gives_run_plain hw).mono fun o o' ho => ?_
    obtain ⟨rfl, plain⟩ := ho
    exact Outcome.SameButVerdict.refl plain
  | use template arguments frame name =>
    exact Use.mirror_run hw htemplates hbody name arguments
  | foreign work frame =>
    refine ((ordinary_blind.foreign work).mirror_gives (gives_runForeign_plain work) hw).mono
      fun o o' ho => ?_
    obtain ⟨rfl, plain⟩ := ho
    exact Outcome.SameButVerdict.refl plain

private theorem mirror_complete (hw : w' = { w with templates := w'.templates }) {f f' : StepFrame}
    (hframe : f.SameButChecks f') {o o' : Outcome} (ho : o.SameButVerdict o') :
    Mirror w w' SameButVerdict (complete f o) (complete f' o') := by
  rw [hframe]
  -- The label and what is saved stand in the frame, but not the assertions.
  have saved := (ordinary_blind.nested.saveAll f.label o.changes f.save).mirror hw
  unfold complete
  rw [← ho.changes]
  refine saved.bind fun changes _ same => ?_
  subst same
  exact mirror_checks fun _ _ _ _ => .intro rfl rfl rfl rfl ho.details ho.inner

private theorem mirror_runWithin (hw : w' = { w with templates := w'.templates })
    (htemplates : w.templates.SameButChecks used w'.templates) (levels : Nat)
    (h : SameButChecks used step step') :
    Mirror w w' SameButVerdict (runWithin levels step) (runWithin levels step') := by
  induction levels generalizing step step' with
  | zero => exact mirror_throw _
  | succ levels ih =>
    -- The steps inside loops and templates have one level less.
    have body (steps steps' : List Step) (hsteps : List.Forall₂ (SameButChecks used) steps steps') :
        Mirror w w' (List.Forall₂ SameButVerdict) (inTurn (runWithin levels) steps)
          (inTurn (runWithin levels) steps') :=
      mirror_inTurn (hsteps.imp fun _ _ hstep => ih hstep)
    have label : step'.frame.label = step.frame.label := by rw [h.frame]; rfl
    have kind : step'.frame.kind = step.frame.kind := by rw [h.frame]
    unfold runWithin runLayer
    rw [label, kind]
    refine ((mirror_work hw htemplates body h).naming _).bind fun o o' ho => ?_
    exact mirror_complete hw h.frame ho

private theorem mirror_runAll (hw : w' = { w with templates := w'.templates })
    (htemplates : w.templates.SameButChecks used w'.templates) {steps steps' : List Step}
    (h : List.Forall₂ (SameButChecks used) steps steps') :
    Mirror w w' (List.Forall₂ SameButVerdict) (runAll steps) (runAll steps') := by
  have depth : w'.depth = w.depth := by rw [hw]
  refine mirror_inTurn (h.imp fun step step' hstep => mirror_surroundings_bind ?_)
  rw [depth]
  exact mirror_runWithin hw htemplates w.depth hstep

/-- Assertions only observe. Where neither run breaks down, steps without loops under a condition
that are equal but for their assertions, at any depth and also in the templates that they use, leave
the same state, with the same requests and the same variables; both stop for the same reason, or
both come to results in the same order that agree in all but verdicts. -/
theorem runAll_only_observes {T : TemplateCatalog} (htemplates : w.templates.SameButChecks used T)
    {steps steps' : List Step} (h : List.Forall₂ (SameButChecks used) steps steps') (s : RunState)
    (hfirst : ∀ text t, runAll steps w s ≠ (.error (.breakdown text), t))
    (hsecond : ∀ text t, runAll steps' { w with templates := T } s ≠
      (.error (.breakdown text), t)) :
    (∃ results results' t, runAll steps w s = (.ok results, t) ∧
      runAll steps' { w with templates := T } s = (.ok results', t) ∧
      List.Forall₂ SameButVerdict results results') ∨
    ∃ e t, runAll steps w s = (.error e, t) ∧
      runAll steps' { w with templates := T } s = (.error e, t) := by
  have mirror : Mirror w { w with templates := T } (List.Forall₂ SameButVerdict) (runAll steps)
      (runAll steps') := mirror_runAll rfl htemplates h
  rcases mirror s with ⟨text, t, broken⟩ | ⟨text, t, broken⟩ | alike
  · exact absurd broken (hfirst text t)
  · exact absurd broken (hsecond text t)
  · exact alike.cases

end Step

end Runs

namespace Step

def isOne (actual : Json) : Assertion :=
  ⟨"equals", Operator.equals.operation, ⟨actual, .nat 1, none, false⟩⟩

def watchedTemplate (checks : List Assertion) : Template :=
  let frame := { StepFrame.saving [("$.ctx.seen", .bool true)] with checks := checks }
  ⟨"watched", none, [], [.check frame], [("$.ctx.out", .nat 7)]⟩

def watched (checks : List Assertion) : TemplateCatalog :=
  ⟨[("watched", watchedTemplate checks)], []⟩

/-- A loop with two rounds that use this template and have the given assertions of their own. -/
def watching (checks : List Assertion) : Step :=
  .each (.saving []) (.array [.null, .null]) "$.item" "$.index"
    [.use { StepFrame.saving [] with checks := checks } "watched" []]

private theorem watched_sameButChecks (checks checks' : List Assertion) :
    (watched checks).SameButChecks (fun _ => True) (watched checks') := by
  intro name _
  by_cases equal : "watched" = name
  · refine Or.inr ⟨watchedTemplate checks, (watchedTemplate checks').steps, ?_, ?_,
      .cons (.check rfl) .nil⟩
    · simp only [watched, TemplateCatalog.get, Members.get?, if_pos equal, Option.some_or]
    · simp only [watched, TemplateCatalog.get, Members.get?, if_pos equal, Option.some_or]
      rfl
  · refine Or.inl ⟨.templateNotFound name, ?_, ?_⟩
    · simp [watched, TemplateCatalog.get, Members.get?, equal]
    · simp [watched, TemplateCatalog.get, Members.get?, equal]

private theorem watching_sameButChecks (checks checks' : List Assertion) :
    SameButChecks (fun _ => True) (watching checks) (watching checks') :=
  .each _ _ _ rfl (.cons (.use _ _ rfl fun _ _ _ => trivial) .nil)

theorem watching_only_observes :
    ∃ results results' t,
      runAll [watching [isOne (.nat 2)]] (.still (watched [isOne (.nat 3)])) .initial =
        (.ok results, t) ∧
      runAll [watching []] (.still (watched [])) .initial = (.ok results', t) ∧
      List.Forall₂ SameButVerdict results results' ∧
      results.all (!·.success) = true ∧ results'.all (·.success) = true := by
  have failing : Exec.yields (runAll [watching [isOne (.nat 2)]]) (fun r => r.all (!·.success))
      (.still (watched [isOne (.nat 3)])) .initial = true := by decide +kernel
  have passing : Exec.yields (runAll [watching []]) (fun r => r.all (·.success))
      (.still (watched [])) .initial = true := by decide +kernel
  obtain ⟨results, t, completed, failed⟩ := Exec.exists_of_yields failing
  obtain ⟨results', t', completed', passed⟩ := Exec.exists_of_yields passing
  have observed := runAll_only_observes (w := .still (watched [isOne (.nat 3)]))
    (watched_sameButChecks _ []) (.cons (watching_sameButChecks [isOne (.nat 2)] []) .nil) .initial
    (by simp [completed])
    (fun text u broken => end_ok_ne_error.mp (completed'.symm.trans broken))
  rcases observed with ⟨first, second, u, hfirst, hsecond, related⟩ | ⟨e, u, stopped, -⟩
  · obtain ⟨rfl, rfl⟩ := end_ok_inj.mp (completed.symm.trans hfirst)
    obtain ⟨rfl, rfl⟩ := end_ok_inj.mp (completed'.symm.trans hsecond)
    exact ⟨_, _, _, completed, completed', related, failed, passed⟩
  · simp [completed] at stopped

def saving (checks : List Assertion) : Step :=
  .check { StepFrame.saving [("$.ctx.done", .bool true)] with checks := checks }

def listed : RunState :=
  { RunState.initial with
    context := Context.empty.putRoot "ctx" (.object [("list", .array [.nat 1, .nat 2])]) }

/-- An assertion with a selector that is refused ends the run, which without the assertion is
completed. -/
theorem refused_assertion_ends_run :
    List.Forall₂ (SameButChecks fun _ => True)
      [saving [isOne (.string "{{$.ctx.list[::0]}}")]] [saving []] ∧
    (∃ text t, runAll [saving [isOne (.string "{{$.ctx.list[::0]}}")]]
      (.still .empty) listed = (.error (.breakdown text), t)) ∧
    ∃ results t, runAll [saving []] (.still .empty) listed = (.ok results, t) := by
  have breaks : Exec.breaksDown
      (runAll [saving [isOne (.string "{{$.ctx.list[::0]}}")]])
      (.still .empty) listed = true := by decide +kernel
  have completes : Exec.yields (runAll [saving []]) (fun r => r.all (·.success))
      (.still .empty) listed = true := by decide +kernel
  obtain ⟨results, t, completed, -⟩ := Exec.exists_of_yields completes
  exact ⟨.cons (.check rfl) .nil, broken_of_breaksDown breaks, results, t, completed⟩

end Step

end Assay
