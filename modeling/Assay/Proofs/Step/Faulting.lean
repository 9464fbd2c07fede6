/- digest: What a faulting step leaves of the variables: all as they were, but where the outputs of
   a template were broken off between two of them. -/

import Assay.Proofs.Exec.Invariant
import Assay.Proofs.Template.Use

set_option autoImplicit false
set_option relaxedAutoImplicit false

namespace Assay

open Exec
open Context (thisRoot)

namespace Context

/-- Values are written one after the other to the places that their targets name. -/
inductive Written : Context → Members Json → Context → Prop
  | nil (c : Context) : Written c [] c
  | cons {c d e : Context} {target : String} {p : Path} {v : Json} {change : Change}
      {rest : Members Json} (hread : Path.read? target = some p)
      (hset : c.set p v = .ok (change, d)) (hrest : Written d rest e) :
      Written c ((target, v) :: rest) e

private theorem Written.eq_of_nil {c d : Context} (h : Written c [] d) : d = c := by
  cases h
  rfl

/-- A target is refused with a fault: it names no place, or one that cannot be written. -/
def Refuses (c : Context) (target : String) (f : Fault) : Prop :=
  (Path.read? target = none ∧ f = .ofDefinition (.invalidPath target)) ∨
    ∃ p e, Path.read? target = some p ∧ (∀ v, c.set p v = .error e) ∧
      f = .ofDefinition e.asDefinition

private theorem snapshot_congr {c d : Context} (henv : d.env = c.env) (hroots : d.roots = c.roots) :
    d.snapshot = c.snapshot := by
  rw [snapshot, snapshot, henv, hroots]

end Context

namespace Exec

variable {α : Type} {w : Surroundings} {s t : RunState} {f : Fault}

private theorem readPath_eq_fault {text : String} :
    readPath text w s = (.error (.fault f), t) ↔
      Path.read? text = none ∧ f = .ofDefinition (.invalidPath text) ∧ s = t := by
  unfold readPath
  cases Path.read? text with
  | none => simp [eq_comm]
  | some p => simp

theorem write_eq_fault {p : Path} {v : Json} :
    write p v w s = (.error (.fault f), t) ↔
      ∃ e, s.context.set p v = .error e ∧ f = .ofDefinition e.asDefinition ∧ s = t := by
  rcases h : s.context.set p v with e | ⟨change, c⟩
  · rw [write_of_error h]
    simp [eq_comm]
  · rw [write_of_ok h]
    simp

theorem resolving_ne_fault {r : Scope → Token.Resolution α} :
    ¬ resolving r w s = (.error (.fault f), t) := by
  rcases h : r (scope w s) with e | ⟨a, lines⟩
  · rw [resolving_of_error h]
    simp
  · rw [resolving_of_ok h]
    simp

private theorem ofDefinition_eq_error {r : Except DefinitionError α} {e : Stop} :
    ofDefinition r w s = (.error e, t) ↔ (∃ d, r = .error d ∧ e = .fault (.ofDefinition d)) ∧ s = t := by
  cases r with
  | ok a => simp [ofDefinition]
  | error d => simp [ofDefinition, eq_comm]

private theorem apart_eq_error {c : Context} {x : Exec α} {e : Stop} :
    apart c x w s = (.error e, t) ↔
      ∃ u, x w { s with context := c } = (.error e, u) ∧ t = { u with context := s.context } := by
  unfold apart
  rcases hx : x w { s with context := c } with ⟨(e' | a), u⟩
  · constructor
    · intro h
      cases h
      exact ⟨u, rfl, rfl⟩
    · rintro ⟨v, equal, rfl⟩
      cases equal
      rfl
  · simp

end Exec

namespace Use

variable {w : Surroundings} {s t : RunState} {f : Fault}

private theorem deliver_eq_fault {after inside : Context} {output outputs : Members Json}
    {changes : Changes}
    (henv : inside.env = after.env) (hroots : inside.roots = after.roots)
    (h : deliver inside outputs changes output w s = (.error (.fault f), t)) :
    ∃ written refused rest values c, output = written ++ refused :: rest ∧
      Resolves ⟨after, w.processVariable⟩ written values ∧ s.context.Written values c ∧
      c.Refuses refused.1 f ∧ t = { s with context := c } := by
  induction output generalizing inside outputs changes s with
  | nil => cases h
  | cons e rest ih =>
    obtain ⟨target, expression⟩ := e
    rcases bind_eq_error.mp h with hv | ⟨⟨v, inside₁⟩, u, hv, h⟩
    · obtain ⟨u, impossible, -⟩ := apart_eq_error.mp hv
      exact absurd impossible resolving_ne_fault
    · obtain ⟨u₁, hresolve, rfl, rfl⟩ := apart_eq_ok.mp hv
      obtain ⟨lines, hvalue, rfl⟩ := resolving_eq_ok.mp hresolve
      rw [scope, Token.resolveValue_congr henv hroots] at hvalue
      rcases bind_eq_error.mp h with hp | ⟨p, u', hp, h⟩
      · obtain ⟨hread, hf, rfl⟩ := readPath_eq_fault.mp hp
        exact ⟨[], (target, expression), rest, [], s.context, rfl, .nil, .nil _, Or.inl ⟨hread, hf⟩, rfl⟩
      · obtain ⟨hread, rfl⟩ := readPath_eq_ok.mp hp
        rcases bind_eq_error.mp h with hwrite | ⟨change, u'', hwrite, h⟩
        · obtain ⟨reason, hset, hf, rfl⟩ := write_eq_fault.mp hwrite
          have refuses : ∀ other, s.context.set p other = .error reason := fun other =>
            (Context.set_eq_error_congr _ _ v other).mp hset
          exact ⟨[], (target, expression), rest, [], s.context, rfl, .nil, .nil _,
            Or.inr ⟨p, reason, hread, refuses, hf⟩, rfl⟩
        · obtain ⟨c₁, hset, rfl⟩ := write_eq_ok.mp hwrite
          have henv₁ : (inside.logLines lines).env = after.env := henv
          obtain ⟨written, refused, later, values, c, rfl, resolves, writes, refuses, rfl⟩ :=
            ih henv₁ hroots h
          exact ⟨(target, expression) :: written, refused, later, (target, v) :: values, c, rfl,
            .cons ⟨rfl, lines, hvalue⟩ resolves, .cons hread hset writes, refuses, rfl⟩

private theorem expand_eq_fault {name : String} {template : Template} {given : Members Json}
    {body : List Step → Exec (List StepResult)}
    (h : expand name template given body w s = (.error (.fault f), t)) :
    t.context = s.context ∨
      ∃ parameters inner stop written refused rest values c, template.bind given = .ok parameters ∧
        body template.steps w { s with context := opened s.context parameters } = (.ok inner, stop) ∧
        template.output = written ++ refused :: rest ∧ Resolves (Exec.scope w stop) written values ∧
        s.context.Written values c ∧ c.Refuses refused.1 f ∧ t.context = c := by
  rcases bind_eq_error.mp h with unbound | ⟨parameters, _, bound, h⟩
  · obtain ⟨-, rfl⟩ := ofDefinition_eq_error.mp unbound
    exact Or.inl rfl
  obtain ⟨hbind, rfl⟩ := ofDefinition_eq_ok.mp bound
  rw [bind_of_ok (enter_run parameters w s)] at h
  rcases bind_eq_error.mp h with hsteps | ⟨⟨inner, inside⟩, s₁, hsteps, h⟩
  · obtain ⟨u, -, rfl⟩ := apart_eq_error.mp hsteps
    exact Or.inl rfl
  obtain ⟨stop, hstop, rfl, rfl⟩ := apart_eq_ok.mp hsteps
  rcases bind_eq_error.mp h with hdeliver | ⟨⟨inside', outputs, changes⟩, s₂, -, h⟩
  · obtain ⟨written, refused, rest, values, c, houtput, resolves, writes, refuses, rfl⟩ :=
      deliver_eq_fault rfl rfl hdeliver
    exact Or.inr ⟨parameters, inner, stop, written, refused, rest, values, c, hbind,
      naming_eq_ok.mp hstop, houtput, resolves, writes, refuses, rfl⟩
  · -- With all outputs delivered, nothing is left that faults.
    dsimp only at h
    rw [bind_of_ok (context_run w s₂), bind_of_ok (setContext_run _ w s₂),
      bind_of_ok (writeRoot_run Context.thisRoot_ne_envRoot _ w _)] at h
    cases h

end Use

/-- A use of a template that faults between two outputs: the steps of the template completed, some
of its outputs were written to the caller's variables, and the next one was refused. -/
structure TemplateRun.BrokenOff (w : Surroundings) (s : RunState) (template : String)
    (arguments : Members Json) (body : List Step → Exec (List StepResult)) (f : Fault) (t : RunState)
    (r : TemplateRun) : Prop where
  name : ∃ lines, Token.resolveText (scope w s) template = .ok ⟨r.name, lines⟩
  template : w.templates.get r.name = .ok r.template
  parameters : ∃ given lines,
    Token.expandMembers (Token.resolve (scope w s)) arguments = .ok ⟨given, lines⟩ ∧
      r.template.bind given = .ok r.parameters
  start : ∃ lines, r.start = { s with context := Use.opened (s.context.logLines lines) r.parameters }
  steps : ∃ inner, body r.template.steps w r.start = (.ok inner, r.stop)
  outputs : ∃ written refused rest lines, r.template.output = written ++ refused :: rest ∧
    written ≠ [] ∧ Resolves (scope w r.stop) written r.outputs ∧
    (s.context.logLines lines).Written r.outputs t.context ∧ t.context.Refuses refused.1 f

private theorem Use.run_eq_fault {w : Surroundings} {s t : RunState} {f : Fault} {template : String}
    {arguments : Members Json} {body : List Step → Exec (List StepResult)}
    (h : Use.run template arguments body w s = (.error (.fault f), t)) :
    t.context.snapshot = s.context.snapshot ∨
      ∃ r : TemplateRun, r.BrokenOff w s template arguments body f t := by
  rcases bind_eq_error.mp h with unnamed | ⟨name, s₁, named, h⟩
  · exact absurd unnamed resolving_ne_fault
  obtain ⟨lines, hname, rfl⟩ := resolving_eq_ok.mp named
  rw [bind_of_ok (surroundings_run w _)] at h
  rcases bind_eq_error.mp h with missing | ⟨found, _, there, h⟩
  · obtain ⟨-, rfl⟩ := ofDefinition_eq_error.mp missing
    exact Or.inl rfl
  obtain ⟨hfound, rfl⟩ := ofDefinition_eq_ok.mp there
  rcases bind_eq_error.mp h with ungiven | ⟨given, s₂, given', h⟩
  · exact absurd ungiven resolving_ne_fault
  obtain ⟨more, hgiven, rfl⟩ := resolving_eq_ok.mp given'
  simp only [scope, Token.resolve_logLines] at hgiven
  rcases expand_eq_fault h with same | ⟨parameters, inner, stop, written, refused, rest, values, c,
    hbind, hsteps, houtput, resolves, writes, refuses, rfl⟩
  · exact Or.inl (Context.snapshot_congr (by rw [same]; rfl) (by rw [same]; rfl))
  by_cases first : written = []
  · subst first
    cases resolves
    rw [writes.eq_of_nil]
    exact Or.inl rfl
  · have logged : (s.context.logLines lines).logLines more = s.context.logLines (lines ++ more) := by
      simp only [Context.logLines, List.append_assoc]
    simp only [logged] at writes hsteps
    exact Or.inr ⟨⟨name, found, parameters, _, stop, values⟩, ⟨lines, hname⟩, hfound,
      ⟨given, more, hgiven, hbind⟩, ⟨lines ++ more, rfl⟩, ⟨inner, hsteps⟩,
      written, refused, rest, lines ++ more, houtput, first, resolves, writes, refuses⟩

namespace Step

variable {w : Surroundings} {s t : RunState} {f : Fault} {step : Step}
  {body : List Step → Exec (List StepResult)}

/-- A step that waits, sends a request or uses a template. -/
def WaitsOrCalls : Step → Prop
  | .wait _ _ | .request _ _ | .use _ _ _ => True
  | _ => False

/-- Where a step that waits, sends a request or uses a template faults, the variables are as they
were before it, unless a template's outputs were broken off: then they are as the outputs before the
refused one left them. -/
theorem fault_keeps_snapshot (hstep : step.WaitsOrCalls)
    (h : step.work body w s = (.error (.fault f), t)) :
    t.context.snapshot = s.context.snapshot ∨
      ∃ frame template arguments, step = .use frame template arguments ∧
        ∃ r : TemplateRun, r.BrokenOff w s template arguments body f t := by
  have log : LogBlind fun c => c.snapshot = s.context.snapshot := fun _ _ same => same
  cases step with
  | wait frame duration =>
    have kept : Keeps (fun c => c.snapshot = s.context.snapshot)
        ((Step.wait frame duration).work body) := (quiet_keeps log).wait body frame duration
    exact Or.inl (kept.of_run rfl h)
  | request frame call =>
    have asked : Keeps (fun c => c.snapshot = s.context.snapshot) (buildRequest call) :=
      (quiet_keeps log).buildRequest call
    have sent (request : Http.Request) : Keeps (fun c => c.snapshot = s.context.snapshot)
        (send request) := keeps_send request
    rcases bind_eq_error.mp h with unbuilt | ⟨request, u, built, h⟩
    · exact Or.inl (asked.of_run rfl unbuilt)
    rcases bind_eq_error.mp h with unsent | ⟨response, v, -, h⟩
    · exact Or.inl ((sent request).of_run (asked.of_run rfl built) unsent)
    · -- With an answer, nothing is left that faults.
      rw [bind_of_ok (writeRoot_run Context.thisRoot_ne_envRoot _ w v)] at h
      cases h
  | use frame template arguments =>
    exact (Use.run_eq_fault h).imp id fun broken => ⟨frame, template, arguments, rfl, broken⟩
  | check _ | each _ _ _ _ _ | loop _ _ _ _ | foreign _ _ => exact hstep.elim

def spoiling : Template :=
  ⟨"spoiling", none, [], [.check (.saving [("$.globals.spoilt", .bool true)]),
    .wait (.saving []) (.string "soon")], []⟩

/-- A template that does nothing, and of whose outputs the second is refused. -/
def half : Template :=
  ⟨"half", none, [], [], [("$.ctx.kept", .nat 1), ("$.env.refused", .nat 2)]⟩

def useOf (template : Template) : Exec Outcome :=
  (Step.use (.saving []) template.name []).work (inTurn (runWithin 5))

def onlyWith (template : Template) : Surroundings := .still ⟨[(template.name, template)], []⟩

theorem spoiling_keeps_snapshot : ∃ f t,
    useOf spoiling (onlyWith spoiling) .initial = (.error (.fault f), t) ∧
      t.context.snapshot = RunState.initial.context.snapshot := by
  have evaluated : (useOf spoiling).faults (fun _ => true) (onlyWith spoiling) .initial = true := by
    decide +kernel
  obtain ⟨f, t, hrun, -⟩ := exists_of_faults evaluated
  refine ⟨f, t, hrun, ?_⟩
  have calls : (Step.use (.saving []) spoiling.name []).WaitsOrCalls := trivial
  rcases fault_keeps_snapshot calls hrun with same | ⟨_, _, _, equal, r, broken⟩
  · exact same
  · -- There is no output that could be refused.
    obtain ⟨written, refused, rest, -, houtput, -⟩ := broken.outputs
    obtain ⟨-, alone⟩ := Prod.mk.inj (List.mem_singleton.mp (TemplateCatalog.mem_of_get broken.template))
    rw [alone] at houtput
    simp [spoiling] at houtput

/-- The outputs before a refused one stay with the caller. -/
theorem half_delivery_remains : ∃ f t,
    useOf half (onlyWith half) .initial = (.error (.fault f), t) ∧
      t.context.snapshot ≠ RunState.initial.context.snapshot := by
  have evaluated : (useOf half).faults
      (fun t => (Json.get? [.key "ctx", .key "kept"] t.context.snapshot).isSome) (onlyWith half)
      .initial = true := by decide +kernel
  obtain ⟨f, t, hrun, kept⟩ := exists_of_faults evaluated
  refine ⟨f, t, hrun, fun same => ?_⟩
  rw [same] at kept
  exact absurd kept (by decide +kernel)

end Step

end Assay
