/- digest: What a template does depends on the environment, the globals and its arguments alone: two
   callers that have these in common cannot be told apart from inside. -/

import Assay.Proofs.Exec.Agreement
import Assay.Proofs.Template.Use

set_option autoImplicit false
set_option relaxedAutoImplicit false

namespace Assay

open Exec
open Context (globalsRoot ctxRoot thisRoot)

/-- Two namespaces of one environment and equal globals. -/
structure Context.Alike (c d : Context) : Prop where
  env : c.env = d.env
  globals : c.root? globalsRoot = d.root? globalsRoot

namespace Context.Alike

variable {c d c' d' : Context}

private theorem logLines (h : c.Alike d) (lines lines' : List String) :
    (c.logLines lines).Alike (d.logLines lines') := ⟨h.env, h.globals⟩

private theorem putRoot (h : c.Alike d) {name : String} {u v : Json}
    (huv : name = globalsRoot → u = v) :
    (c.putRoot name u).Alike (d.putRoot name v) := by
  refine ⟨h.env, ?_⟩
  by_cases hname : name = globalsRoot
  · obtain rfl := huv hname
    rw [hname, Context.root?_putRoot_self Context.globalsRoot_ne_envRoot,
      Context.root?_putRoot_self Context.globalsRoot_ne_envRoot]
  · rw [Context.root?_putRoot_of_ne (Ne.symm hname), Context.root?_putRoot_of_ne (Ne.symm hname)]
    exact h.globals

private theorem set (h : c.Alike d) {p : Path} {v : Json} {change change' : Change}
    (hc : c.set p v = .ok (change, c')) (hd : d.set p v = .ok (change', d')) : c'.Alike d' := by
  obtain ⟨-, -, rfl⟩ := Context.set_eq_ok hc
  obtain ⟨-, -, rfl⟩ := Context.set_eq_ok hd
  refine h.putRoot fun hroot => ?_
  have globals := h.globals
  rw [Context.root?_of_ne Context.globalsRoot_ne_envRoot,
    Context.root?_of_ne Context.globalsRoot_ne_envRoot] at globals
  rw [hroot, globals]

end Context.Alike

private theorem RunState.Beside.logLines {s s' : RunState} (hs : s.Beside Context.Alike s')
    (lines lines' : List String) :
    ({ s with context := s.context.logLines lines } : RunState).Beside Context.Alike
      { s' with context := s'.context.logLines lines' } :=
  ⟨by rw [hs.world], hs.context.logLines lines lines'⟩

/-- Outcomes that differ at most in which places were added and which modified. -/
def Outcome.Same (o o' : Outcome) : Prop := o = { o' with changes := o.changes }

private theorem Outcome.same_withInner (inner : List StepResult) {o o' : Outcome} (h : o.Same o') :
    (o.withInner inner).Same (o'.withInner inner) := by
  rw [Outcome.Same] at h ⊢
  rw [h]
  dsimp only [withInner]
  split
  · rfl
  · rfl

namespace Use

private theorem agree_deliver (inside : Context) (outputs : Members Json)
    (changes changes' : Changes)
    (output : Members Json) :
    Agree Context.Alike (fun r r' => r.1 = r'.1 ∧ r.2.1 = r'.2.1)
      (deliver inside outputs changes output) (deliver inside outputs changes' output) := by
  induction output generalizing inside outputs changes changes' with
  | nil => exact agree_pure ⟨rfl, rfl⟩
  | cons e rest ih =>
    refine (agree_apart _ _).bind fun r r' hr => (agree_readPath _).bind fun p p' hp => ?_
    subst hr hp
    refine (agree_write fun c d c' d' change change' h hc hd => h.set hc hd).bind ?_
    exact fun change change' _ => ih _ _ _ _

private theorem agree_enter (parameters : Members Json) :
    Agree Context.Alike Eq (enter parameters) (enter parameters) := by
  intro w s s' hs
  rw [enter_run, enter_run]
  refine ⟨?_, hs⟩
  rw [opened, opened, Context.isolated_congr hs.context.env hs.context.globals]

private theorem agree_expand (name : String) (t : Template) (given : Members Json)
    (body : List Step → Exec (List StepResult)) :
    Agree Context.Alike Outcome.Same (expand name t given body) (expand name t given body) := by
  refine (agree_ofDefinition _).bind fun parameters _ equal => ?_
  subst equal
  refine (agree_enter parameters).bind fun inside _ equal => ?_
  subst equal
  refine (agree_apart _ _).bind fun r _ equal => ?_
  subst equal
  refine (agree_deliver _ _ _ _ _).bind fun d d' hd => agree_context.bind fun c c' hc => ?_
  obtain ⟨hinside, houtputs⟩ := hd
  refine (agree_setContext (hc.logLines _ _)).bind fun _ _ _ => ?_
  rw [houtputs]
  refine (agree_writeRoot Context.thisRoot_ne_envRoot fun c c' h => ?_).bind fun _ _ _ => ?_
  · exact h.putRoot fun _ => rfl
  · exact agree_pure (Outcome.same_withInner _ rfl)

private theorem endAlike_run {w : Surroundings} {s s' : RunState} {template : String}
    {arguments : Members Json} (body : List Step → Exec (List StepResult))
    (hs : s.Beside Context.Alike s')
    (hname : (Token.resolveText (scope w s) template).map (·.value) =
      (Token.resolveText (scope w s') template).map (·.value))
    (harguments : (Token.expandMembers (Token.resolve (scope w s)) arguments).map (·.value) =
      (Token.expandMembers (Token.resolve (scope w s')) arguments).map (·.value)) :
    EndAlike Context.Alike Outcome.Same (run template arguments body w s)
      (run template arguments body w s') := by
  -- Up to here the callers may differ in all their variables, and so may the lines that they log.
  refine endAlike_resolving_bind hname hs fun name lines lines' => ?_
  rw [bind_of_ok (surroundings_run w _), bind_of_ok (surroundings_run w _)]
  rcases w.templates.get name with e | t
  · exact ⟨rfl, hs.logLines lines lines'⟩
  · rw [ofDefinition, bind_of_ok (pure_run t w _), bind_of_ok (pure_run t w _)]
    refine endAlike_resolving_bind ?_ (hs.logLines lines lines') fun given more more' => ?_
    · simpa only [scope, Token.resolve_logLines] using harguments
    · exact agree_expand name t given body w _ _ ((hs.logLines lines lines').logLines more more')

end Use

/-- Two callers of one environment and equal globals, in whose variables a use of a template has the
same name and the same arguments, see the same come out of it: the results of its steps, its
outputs, the requests that it sends, the time that it takes, or the fault that it ends in. And in
what they have in common they are alike afterwards. -/
theorem Step.use_depends_on_arguments {w : Surroundings} {s s' : RunState} {frame : StepFrame}
    {template : String} {arguments : Members Json} (body : List Step → Exec (List StepResult))
    (hs : s.Beside Context.Alike s')
    (hname : (Token.resolveText (scope w s) template).map (·.value) =
      (Token.resolveText (scope w s') template).map (·.value))
    (harguments : (Token.expandMembers (Token.resolve (scope w s)) arguments).map (·.value) =
      (Token.expandMembers (Token.resolve (scope w s')) arguments).map (·.value)) :
    EndAlike Context.Alike Outcome.Same ((Step.use frame template arguments).work body w s)
      ((Step.use frame template arguments).work body w s') :=
  Use.endAlike_run body hs hname harguments

private def isOneText (name text : String) (r : Token.Resolution (Members Json)) : Bool :=
  match r with
  | .ok ⟨[(k, .string v)], _⟩ => k == name && v == text
  | _ => false

private theorem map_value_of_isOneText {name text : String} {r : Token.Resolution (Members Json)}
    (h : isOneText name text r = true) : r.map (·.value) = .ok [(name, .string text)] := by
  unfold isOneText at h
  split at h
  · simp only [Bool.and_eq_true, beq_iff_eq] at h
    obtain ⟨rfl, rfl⟩ := h
    rfl
  · cases h

/-- A caller with a name among its own variables, and with a root beside them. -/
def callerHiding (v : Json) : RunState :=
  { RunState.initial with
    context := (Context.empty.putRoot ctxRoot (.object [("who", .string "Ann")])).putRoot "hidden" v }

/-- A template that is given the name completes, and it shows nothing of the root beside it. -/
theorem greeting_depends_on_arguments :
    Exec.yields ((greetingUse "{{$.ctx.who}}").work (inTurn (Step.runWithin 5)))
        (·.success) (.still greetingCatalog) (callerHiding (.nat 1)) = true ∧
      EndAlike Context.Alike Outcome.Same
        ((greetingUse "{{$.ctx.who}}").work (inTurn (Step.runWithin 5))
          (.still greetingCatalog) (callerHiding (.nat 1)))
        ((greetingUse "{{$.ctx.who}}").work (inTurn (Step.runWithin 5))
          (.still greetingCatalog) (callerHiding (.nat 2))) := by
  refine ⟨by decide +kernel, ?_⟩
  have first : isOneText "name" "Ann" (Token.expandMembers
      (Token.resolve (scope (.still greetingCatalog) (callerHiding (.nat 1))))
      [("name", .string "{{$.ctx.who}}")]) = true := by decide +kernel
  have second : isOneText "name" "Ann" (Token.expandMembers
      (Token.resolve (scope (.still greetingCatalog) (callerHiding (.nat 2))))
      [("name", .string "{{$.ctx.who}}")]) = true := by decide +kernel
  refine Step.use_depends_on_arguments _ ⟨rfl, rfl, rfl⟩ (by decide +kernel) ?_
  rw [map_value_of_isOneText first, map_value_of_isOneText second]

end Assay
