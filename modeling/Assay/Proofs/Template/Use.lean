/- digest: The course of a completed use of a template: what its steps start from, what they leave,
   and what of it reaches the caller. -/

import Assay.Proofs.Exec.Completion
import Assay.Proofs.Path.Parting
import Assay.Proofs.Result.Tree
import Assay.Proofs.Token.Scope

set_option autoImplicit false
set_option relaxedAutoImplicit false

namespace Assay

open Exec
open Context (ctxRoot thisRoot)

theorem TemplateCatalog.mem_of_get {T : TemplateCatalog} {name : String} {t : Template}
    (h : T.get name = .ok t) :
    (name, t) ∈ T.suite ++ T.common := by
  unfold get at h
  rcases found : (Members.get? name T.suite).or (Members.get? name T.common) with _ | t'
  · rw [found] at h
    cases h
  · rw [found] at h
    cases h
    rcases Option.or_eq_some_iff.mp found with own | ⟨-, common⟩
    · exact List.mem_append_left _ (Members.mem_of_get? own)
    · exact List.mem_append_right _ (Members.mem_of_get? common)

/-- Between two namespaces, nothing has changed but at some places: each place that parts from all
of them at a name holds what it held. -/
structure Context.Spares (written : Path → Prop) (c d : Context) : Prop where
  env : d.env = c.env
  places : ∀ q, (∀ p, written p → p.PartAtName q) → d.get? q = c.get? q

namespace Context.Spares

variable {written more : Path → Prop} {c d e : Context}

private theorem refl (written : Path → Prop) (c : Context) :
    Spares written c c := ⟨rfl, fun _ _ => rfl⟩

private theorem trans (h : Spares written c d) (h' : Spares written d e) : Spares written c e :=
  ⟨h'.env.trans h.env, fun q hq => (h'.places q hq).trans (h.places q hq)⟩

private theorem mono (h : Spares written c d) (hmore : ∀ p, written p → more p) : Spares more c d :=
  ⟨h.env, fun q hq => h.places q fun p hp => hq p (hmore p hp)⟩

private theorem of_set {p : Path} {v : Json} {change : Change} (h : c.set p v = .ok (change, d)) :
    Spares (· = p) c d := by
  refine ⟨?_, fun q hq => get?_of_set h (hq p rfl)⟩
  obtain ⟨-, -, rfl⟩ := set_eq_ok h
  rfl

theorem root? (h : Spares written c d) {name : String} (hname : ∀ p, written p → p.root ≠ name) :
    d.root? name = c.root? name := by
  simpa [Context.get?, Json.get?] using h.places ⟨name, []⟩ fun p hp => Or.inl (hname p hp)

end Context.Spares

/-- A place that outputs of a template are written to. -/
def IsTarget (output : Members Json) (p : Path) : Prop :=
  ∃ target ∈ Members.names output, Path.read? target = some p

/-- Values under the same names in the same order, each resolved. -/
def Resolves (scope : Scope) (expressions values : Members Json) : Prop :=
  List.Forall₂ (fun e v => v.1 = e.1 ∧ ∃ lines, Token.resolveValue scope e.2 = .ok ⟨v.2, lines⟩)
    expressions values

theorem Resolves.names {scope : Scope} {expressions values : Members Json}
    (h : Resolves scope expressions values) : Members.names values = Members.names expressions := by
  induction h with
  | nil => rfl
  | cons first _ ih =>
    simp only [Members.names] at ih
    simp [Members.names, first.1, ih]

namespace Use

variable {w : Surroundings} {s t : RunState}

/-- The namespace in which the steps of a template start. -/
def opened (caller : Context) (parameters : Members Json) : Context :=
  caller.isolated.putRoot ctxRoot (.object (Members.putAll [] parameters))

private theorem set_parameter {c : Context} {old : Members Json}
    (h : c.root? ctxRoot = some (.object old)) (name : String) (v : Json) :
    ∃ change, c.set ⟨ctxRoot, [.key name]⟩ v =
      .ok (change, c.putRoot ctxRoot (.object (Members.put name v old))) := by
  rw [Context.root?_of_ne Context.ctxRoot_ne_envRoot] at h
  refine ⟨if (c.get? ⟨ctxRoot, [.key name]⟩).isSome then .modified else .added, ?_⟩
  simp [Context.set, Segment.exceeds, h, Json.set, Json.membersOrNone, Context.putRoot]

private theorem place_run {old : Members Json} (h : s.context.root? ctxRoot = some (.object old))
    (parameters : Members Json) :
    place parameters w s = (.ok (),
      { s with
        context := s.context.putRoot ctxRoot (.object (Members.putAll old parameters)) }) := by
  induction parameters generalizing s old with
  | nil =>
    rw [Members.putAll_nil, Context.putRoot_of_root? Context.ctxRoot_ne_envRoot h]
    rfl
  | cons e rest ih =>
    obtain ⟨name, v⟩ := e
    obtain ⟨change, hset⟩ := set_parameter h name v
    have placed := Context.root?_putRoot_self (c := s.context) (v := .object (Members.put name v old))
      Context.ctxRoot_ne_envRoot
    rw [place, bind_of_ok (write_of_ok hset), ih placed]
    simp only [Context.putRoot_putRoot, Members.putAll_cons]

/-- To enter a template always succeeds, and it leaves the caller alone. -/
theorem enter_run (parameters : Members Json) (w : Surroundings) (s : RunState) :
    enter parameters w s = (.ok (opened s.context parameters), s) := by
  have placed := place_run (w := w) (s := { s with context := s.context.isolated })
    (Context.isolated_ctx s.context) parameters
  have entered : apart s.context.isolated (place parameters) w s =
      (.ok ((), opened s.context parameters), s) :=
    apart_eq_ok.mpr ⟨_, placed, rfl, rfl⟩
  rw [enter, bind_of_ok (context_run w s), bind_of_ok entered]
  rfl

private theorem deliver_eq_ok {after inside inside' : Context}
    {output outputs outputs' : Members Json}
    {changes changes' : Changes} (henv : inside.env = after.env) (hroots : inside.roots = after.roots)
    (h : deliver inside outputs changes output w s = (.ok (inside', outputs', changes'), t)) :
    ∃ values c, Resolves ⟨after, w.processVariable⟩ output values ∧
      outputs' = Members.putAll outputs values ∧ t = { s with context := c } ∧
      s.context.Spares (IsTarget output) c := by
  induction output generalizing inside outputs changes s with
  | nil =>
    obtain ⟨equal, rfl⟩ := pure_eq_ok.mp h
    cases equal
    exact ⟨[], s.context, .nil, rfl, rfl, .refl _ _⟩
  | cons e rest ih =>
    obtain ⟨target, expression⟩ := e
    simp only [deliver, bind_eq_ok] at h
    obtain ⟨⟨v, inside₁⟩, u, hv, p, _, hp, change, u', hwrite, hrest⟩ := h
    obtain ⟨u₁, hresolve, rfl, rfl⟩ := apart_eq_ok.mp hv
    obtain ⟨lines, hvalue, rfl⟩ := resolving_eq_ok.mp hresolve
    obtain ⟨hpath, rfl⟩ := readPath_eq_ok.mp hp
    obtain ⟨c₁, hset, rfl⟩ := write_eq_ok.mp hwrite
    -- To resolve an output adds to the log alone, so the next one sees the same variables.
    have henv₁ : (inside.logLines lines).env = after.env := henv
    obtain ⟨values, c, resolves, rfl, rfl, spares⟩ := ih henv₁ hroots hrest
    refine ⟨(target, v) :: values, c, .cons ⟨rfl, lines, ?_⟩ resolves, rfl, rfl, ?_⟩
    · rw [← Token.resolveValue_congr henv hroots]
      exact hvalue
    · have own : s.context.Spares (IsTarget ((target, expression) :: rest)) c₁ :=
        (Context.Spares.of_set hset).mono fun q hq => ⟨target, by simp [Members.names], hq ▸ hpath⟩
      refine own.trans (spares.mono fun q hq => ?_)
      obtain ⟨later, hlater, hread⟩ := hq
      exact ⟨later, List.mem_cons_of_mem _ hlater, hread⟩

private theorem expand_eq_ok {name : String} {template : Template} {given : Members Json}
    {body : List Step → Exec (List StepResult)} {o : Outcome}
    (h : expand name template given body w s = (.ok o, t)) :
    ∃ parameters stop values c, template.bind given = .ok parameters ∧
      body template.steps w { s with context := opened s.context parameters } = (.ok o.inner, stop) ∧
      Resolves (scope w stop) template.output values ∧
      s.context.Spares (IsTarget template.output) c ∧
      t = { stop with context := c.putRoot thisRoot (.object (Members.putAll [] values)) } := by
  simp only [expand, bind_eq_ok] at h
  obtain ⟨parameters, _, h₁, inside, _, henter, ⟨inner, after⟩, s₁, hsteps,
    ⟨inside', outputs, changes⟩, s₂, hdeliver, _, _, hcontext, _, _, hlog, _, _, hthis, hend⟩ := h
  obtain ⟨hbind, rfl⟩ := ofDefinition_eq_ok.mp h₁
  rw [enter_run] at henter
  obtain ⟨rfl, rfl⟩ := end_ok_inj.mp henter
  obtain ⟨stop, hstop, rfl, rfl⟩ := apart_eq_ok.mp hsteps
  obtain ⟨values, c, resolves, rfl, rfl, spares⟩ := deliver_eq_ok rfl rfl hdeliver
  obtain ⟨rfl, rfl⟩ := end_ok_inj.mp hcontext
  obtain ⟨-, rfl⟩ := end_ok_inj.mp hlog
  rw [writeRoot_run Context.thisRoot_ne_envRoot] at hthis
  obtain ⟨-, rfl⟩ := end_ok_inj.mp hthis
  obtain ⟨rfl, rfl⟩ := pure_eq_ok.mp hend
  refine ⟨parameters, stop, values, c.logLines inside'.log, hbind, ?_, resolves,
    ⟨spares.env, spares.places⟩, rfl⟩
  rw [Outcome.inner_withInner]
  exact naming_eq_ok.mp hstop

end Use

/-- A use of a template: its name, the template, the parameters as they are bound, the states in
which its steps start and end, and its outputs. -/
structure TemplateRun where
  name : String
  template : Template
  parameters : Members Json
  start : RunState
  stop : RunState
  outputs : Members Json

namespace TemplateRun

/-- What it takes for a use of a template to be the one that a computation completed. -/
structure Ran (w : Surroundings) (s : RunState) (template : String) (arguments : Members Json)
    (body : List Step → Exec (List StepResult)) (o : Outcome) (t : RunState) (r : TemplateRun) :
    Prop where
  name : ∃ lines, Token.resolveText (scope w s) template = .ok ⟨r.name, lines⟩
  template : w.templates.get r.name = .ok r.template
  parameters : ∃ given lines,
    Token.expandMembers (Token.resolve (scope w s)) arguments = .ok ⟨given, lines⟩ ∧
      r.template.bind given = .ok r.parameters
  start : r.start = { s with context := Use.opened s.context r.parameters }
  steps : body r.template.steps w r.start = (.ok o.inner, r.stop)
  outputs : ∃ values, Resolves (scope w r.stop) r.template.output values ∧
    r.outputs = Members.putAll [] values
  stop : ∃ c, s.context.Spares (IsTarget r.template.output) c ∧
    t = { r.stop with context := c.putRoot thisRoot (.object r.outputs) }

end TemplateRun

theorem Use.run_eq_ok {w : Surroundings} {s t : RunState} {template : String}
    {arguments : Members Json} {body : List Step → Exec (List StepResult)} {o : Outcome}
    (h : Use.run template arguments body w s = (.ok o, t)) :
    ∃ r : TemplateRun, r.Ran w s template arguments body o t := by
  simp only [Use.run, bind_eq_ok] at h
  obtain ⟨name, s₁, h₁, _, _, hw, found, _, h₂, given, s₂, h₃, hexpand⟩ := h
  obtain ⟨lines, hname, rfl⟩ := resolving_eq_ok.mp h₁
  obtain ⟨rfl, rfl⟩ := end_ok_inj.mp hw
  obtain ⟨hfound, rfl⟩ := ofDefinition_eq_ok.mp h₂
  obtain ⟨more, hgiven, rfl⟩ := resolving_eq_ok.mp h₃
  simp only [scope, Token.resolve_logLines] at hgiven
  obtain ⟨parameters, stop, values, c, hbind, hsteps, resolves, spares, rfl⟩ := expand_eq_ok hexpand
  -- The lines logged so far are no part of what the template is given.
  exact ⟨⟨name, found, parameters, { s with context := opened s.context parameters }, stop,
    Members.putAll [] values⟩, ⟨lines, hname⟩, hfound, ⟨given, more, hgiven, hbind⟩, rfl, hsteps,
    ⟨values, resolves, rfl⟩, c, ⟨spares.env, spares.places⟩, rfl⟩

/-- A template that writes to the globals, over its parameter and to a root of its own, and that has
outputs side by side. -/
def greeting : Template :=
  { name := "greeting", description := none, parameters := [("name", ⟨none, true, none, none⟩)]
    steps := [.check (.saving [("$.globals.greeted", .string "{{$.ctx.name}}"),
      ("$.ctx.name", .string "nobody"), ("$.mine", .nat 1)])]
    output := [("$.out.greeted", .string "{{$.globals.greeted}}"),
      ("$.out.mine", .nat 1)] }

def greetingCatalog : TemplateCatalog := ⟨[("greeting", greeting)], []⟩

def greetingUse (name : String) : Step := .use (.saving []) "greeting" [("name", .string name)]

end Assay
