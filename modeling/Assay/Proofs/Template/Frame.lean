/- digest: What a template does stays inside it: its caller sees the outputs at their places and
   under the root for the last outputs, and nothing else. -/

import Assay.Proofs.Template.Use

set_option autoImplicit false
set_option relaxedAutoImplicit false

namespace Assay

open Context (globalsRoot ctxRoot thisRoot)

namespace Template

theorem nodup_bindAll {template : String} {parameters : Members Parameter}
    {given bound : Members Json} (hgiven : (Members.names given).Nodup)
    (h : bindAll template given parameters = .ok bound) : (Members.names bound).Nodup := by
  induction parameters generalizing given with
  | nil =>
    cases h
    exact hgiven
  | cons e rest ih =>
    obtain ⟨name, p⟩ := e
    simp only [bindAll] at h
    rcases hv : valueOf template name p (Members.get? name given) with e | v
    · simp only [hv, Bind.bind, Except.bind, reduceCtorEq] at h
    · cases v with
      | none =>
        simp only [hv, Bind.bind, Except.bind] at h
        exact ih hgiven h
      | some v =>
        simp only [hv, Bind.bind, Except.bind] at h
        exact ih (Members.nodup_put (Members.nodup_erase hgiven name) name v) h

end Template

namespace TemplateRun

/-- A use of a template is closed on both sides. Its steps start in a namespace of the caller's
environment and globals and of the bound parameters alone. And the caller has the outputs of the
template under the root for them and at their places, while every root and every place that no
output goes to is as it was. -/
structure Closed (w : Surroundings) (s t : RunState) (r : TemplateRun) : Prop where
  startEnv : r.start.context.env = s.context.env
  startGlobals : r.start.context.root? globalsRoot =
    some ((s.context.root? globalsRoot).getD (.object []))
  startParameters : r.start.context.root? ctxRoot = some (.object r.parameters)
  startRoots : r.start.context.rootNames = [globalsRoot, ctxRoot]
  env : t.context.env = s.context.env
  roots : ∀ name, name ≠ thisRoot → (∀ p, IsTarget r.template.output p → p.root ≠ name) →
    t.context.root? name = s.context.root? name
  places : ∀ q : Path, q.root ≠ thisRoot →
    (∀ p, IsTarget r.template.output p → p.PartAtName q) → t.context.get? q = s.context.get? q
  outputs : Resolves (Exec.scope w r.stop) r.template.output r.outputs
  this : t.context.root? thisRoot = some (.object r.outputs)

variable {w : Surroundings} {s t : RunState} {template : String} {arguments : Members Json}
  {body : List Step → Exec (List StepResult)} {o : Outcome} {r : TemplateRun}

private theorem Ran.nodup_parameters (h : r.Ran w s template arguments body o t)
    (harguments : (Members.names arguments).Nodup) : (Members.names r.parameters).Nodup := by
  obtain ⟨given, lines, hgiven, hbind⟩ := h.parameters
  refine Template.nodup_bindAll ?_ hbind
  have names := Token.names_expandMembers hgiven
  simp only at names
  rwa [names]

private theorem Ran.closed (h : r.Ran w s template arguments body o t)
    (harguments : (Members.names arguments).Nodup)
    (houtput : (Members.names r.template.output).Nodup) : r.Closed w s t := by
  obtain ⟨c, spares, rfl⟩ := h.stop
  obtain ⟨values, resolves, houtputs⟩ := h.outputs
  have isOutputs : r.outputs = values := by
    rw [houtputs, Members.putAll_nil_of_nodup (resolves.names ▸ houtput)]
  have start : r.start.context = Use.opened s.context r.parameters := by rw [h.start]
  constructor
  case startEnv => rw [start, Use.opened, Context.putRoot_env, Context.isolated_env]
  case startGlobals =>
    rw [start, Use.opened, Context.root?_putRoot_of_ne Context.ctxRoot_ne_globalsRoot.symm,
      Context.isolated_globals]
  case startParameters =>
    rw [start, Use.opened, Context.root?_putRoot_self Context.ctxRoot_ne_envRoot,
      Members.putAll_nil_of_nodup (h.nodup_parameters harguments)]
  case startRoots =>
    have present : ctxRoot ∈ s.context.isolated.rootNames := by simp [Context.isolated_rootNames]
    rw [start, Use.opened, Context.rootNames_putRoot_of_mem present, Context.isolated_rootNames]
  case env => exact spares.env
  case roots =>
    intro name hthis htargets
    exact (Context.root?_putRoot_of_ne hthis).trans (spares.root? htargets)
  case places =>
    intro q hthis htargets
    exact (Context.get?_congr (Context.root?_putRoot_of_ne hthis)).trans (spares.places q htargets)
  case outputs => rwa [isOutputs]
  case this => exact Context.root?_putRoot_self Context.thisRoot_ne_envRoot

end TemplateRun

/-- Whatever the steps of a template do, its use is closed on both sides. -/
theorem Step.use_is_closed {w : Surroundings} {s t : RunState} {frame : StepFrame}
    {template : String} {arguments : Members Json} {body : List Step → Exec (List StepResult)}
    {o : Outcome} (harguments : (Members.names arguments).Nodup)
    (houtputs : ∀ name t, w.templates.get name = .ok t → (Members.names t.output).Nodup)
    (h : (Step.use frame template arguments).work body w s = (.ok o, t)) :
    ∃ r : TemplateRun, r.Ran w s template arguments body o t ∧ r.Closed w s t := by
  obtain ⟨r, ran⟩ := Use.run_eq_ok h
  exact ⟨r, ran, ran.closed harguments (houtputs r.name r.template ran.template)⟩

/-- The use of a template that writes over its own parameter is closed on both sides. -/
theorem greeting_use_is_closed :
    ∃ o t, ∃ r : TemplateRun, (greetingUse "Ann").work (Exec.inTurn (Step.runWithin 5))
        (.still greetingCatalog) .initial = (.ok o, t) ∧
      r.Ran (.still greetingCatalog) .initial "greeting" [("name", .string "Ann")]
        (Exec.inTurn (Step.runWithin 5)) o t ∧
      r.Closed (.still greetingCatalog) .initial t := by
  have evaluated : Exec.yields ((greetingUse "Ann").work (Exec.inTurn (Step.runWithin 5)))
      (·.success) (.still greetingCatalog) .initial = true := by decide +kernel
  obtain ⟨o, t, h, -⟩ := Exec.exists_of_yields evaluated
  have houtputs : ∀ name t, greetingCatalog.get name = .ok t → (Members.names t.output).Nodup := by
    intro name t found
    by_cases known : "greeting" = name
    · simp only [TemplateCatalog.get, greetingCatalog, Members.get?, known, if_true] at found
      cases found
      decide
    · simp [TemplateCatalog.get, greetingCatalog, Members.get?, known] at found
  obtain ⟨r, ran, closed⟩ := Step.use_is_closed (by decide) houtputs h
  exact ⟨o, t, r, h, ran, closed⟩

end Assay
