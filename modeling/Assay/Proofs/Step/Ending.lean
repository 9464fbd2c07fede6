/- digest: Which runs without loops under a condition come to an end: those in which templates use
   each other only so many times inside each other. How deep steps may lie makes no difference to
   them. -/

import Mathlib.Order.Filter.AtTopBot.Basic
import Mathlib.Order.Filter.Finite
import Assay.Proofs.Exec.Deadline
import Assay.Proofs.Exec.Lasting
import Assay.Proofs.Step.Avoiding
import Assay.Proofs.Template.Use
import Assay.Proofs.Token.Settled

set_option autoImplicit false
set_option relaxedAutoImplicit false

namespace Assay

namespace Exec

variable {α β : Type}

/-- A computation runs in the same way whatever the bound of the depth is. -/
private def DepthBlind (x : Exec α) : Prop :=
  Indifferent (fun w (n : Nat) => { w with depth := n }) x

private theorem pervasive_depthBlind : Pervasive fun _ x => DepthBlind x where
  toOrdinary := ordinary_indifferent fun w n => ⟨w.templates, n, rfl⟩
  exhausted := fun _ _ _ => rfl
  underDeadline deadline hx := fun w n s => by
    have same := hx { w with deadlines := deadline :: w.deadlines } n s
    simp only at same
    simp only [Exec.underDeadline, same]
  consulting hread hf := indifferent_surroundings_bind (fun w n => hread w w.transport n) hf

end Exec

open Exec

namespace TemplateCatalog

private theorem eventually_forall (T : TemplateCatalog) {P : String → Template → Nat → Prop}
    (h : ∀ name t, T.get name = .ok t → ∀ᶠ n in Filter.atTop, P name t n) :
    ∀ᶠ n in Filter.atTop, ∀ name t, T.get name = .ok t → P name t n := by
  have finite := List.finite_toSet (T.suite ++ T.common)
  have each : ∀ e ∈ {e | e ∈ T.suite ++ T.common},
      ∀ᶠ n in Filter.atTop, T.get e.1 = .ok e.2 → P e.1 e.2 n := by
    intro e _
    by_cases found : T.get e.1 = .ok e.2
    · exact (h e.1 e.2 found).mono fun n hn _ => hn
    · exact Filter.Eventually.of_forall fun n hn => absurd hn found
  refine ((Filter.eventually_all_finite finite).mpr each).mono fun n hn name t ht => ?_
  exact hn (name, t) (mem_of_get ht) ht

end TemplateCatalog

namespace Step

mutual

/-- Runs a step; `enter` runs the steps of a template that is used in it. -/
def runUsing (enter : List Step → Exec (List StepResult)) : Step → Exec StepResult
  | .wait f duration => layer enter (.wait f duration)
  | .check f => layer enter (.check f)
  | .each f items itemKey indexKey steps =>
    layer (fun _ => runUsingAll enter steps) (.each f items itemKey indexKey steps)
  | .loop f condition timeout steps =>
    layer (fun _ => runUsingAll enter steps) (.loop f condition timeout steps)
  | .request f call => layer enter (.request f call)
  | .use f template arguments => layer enter (.use f template arguments)
  | .foreign f work => layer enter (.foreign f work)

/-- Runs steps in order; `enter` runs the steps of a template that is used in them. -/
private def runUsingAll (enter : List Step → Exec (List StepResult)) :
    List Step → Exec (List StepResult)
  | [] => pure []
  | step :: rest => do
    let r ← runUsing enter step
    let others ← runUsingAll enter rest
    return r :: others

end

private theorem runUsingAll_eq (enter : List Step → Exec (List StepResult)) (steps : List Step) :
    runUsingAll enter steps = inTurn (runUsing enter) steps := by
  induction steps with
  | nil => rfl
  | cons step rest ih => simp only [runUsingAll, inTurn, ih]

/-- What runs inside a step: the steps of a template, or the steps that stand in it. -/
private def inside (enter : List Step → Exec (List StepResult)) (step : Step) (steps : List Step) :
    Exec (List StepResult) :=
  if step.isUse then enter steps else inTurn (runUsing enter) steps

private theorem runUsing_eq (enter : List Step → Exec (List StepResult)) (step : Step) :
    runUsing enter step = layer (inside enter step) step := by
  cases step with
  | each frame items itemKey indexKey steps => rw [runUsing, runUsingAll_eq]; rfl
  | loop frame condition timeout steps => rw [runUsing, runUsingAll_eq]; rfl
  | wait _ _ | check _ | request _ _ | use _ _ _ | foreign _ _ => rw [runUsing]; rfl

/-- Enters templates that use templates at most so many times inside each other. -/
def enterAtMost : Nat → List Step → Exec (List StepResult)
  | 0, _ => throw .exhausted
  | uses + 1, steps => inTurn (runUsing (enterAtMost uses)) steps

variable {T : TemplateCatalog}

private theorem runWithin_unless
    (hcatalog : ∀ name t, T.get name = .ok t → ∀ x ∈ t.steps, x.Free isLoop)
    {levels uses : Nat} (h : levels ≤ uses) {step : Step} (hstep : step.Free isLoop) :
    Unless (· = .exhausted) T (runWithin levels step) (runUsing (enterAtMost uses) step) := by
  induction levels generalizing uses step with
  | zero => exact unless_exhausted _
  | succ levels ih =>
    obtain ⟨own, inner⟩ := hstep
    obtain ⟨below, rfl⟩ : ∃ below, uses = below + 1 := ⟨uses - 1, by omega⟩
    rw [runUsing_eq]
    change Unless _ T (layer (inTurn (runWithin levels)) step) _
    refine unless_layer noFault_exhausted own ?_ ?_
    · intro notUse
      simp only [inside, notUse, Bool.false_eq_true, if_false]
      exact (nested_unless noFault_exhausted).inTurn fun x hx => ih (by omega) (inner x hx)
    · intro isUse name t ht
      simp only [inside, isUse, if_true, enterAtMost]
      exact (nested_unless noFault_exhausted).inTurn fun x hx => ih (by omega) (hcatalog name t ht x hx)

private theorem eventually_unless {enter : List Step → Exec (List StepResult)}
    (henter : ∀ᶠ n in Filter.atTop, ∀ name t, T.get name = .ok t →
      Unless (· = .exhausted) T (enter t.steps) (inTurn (runWithin n) t.steps))
    {step : Step} (hstep : step.Free isLoop) :
    ∀ᶠ n in Filter.atTop, Unless (· = .exhausted) T (runUsing enter step) (runWithin n step) := by
  induction hstep with
  | @intro step own _ ih =>
    have inner : ∀ᶠ n in Filter.atTop, ∀ x ∈ {x | x ∈ step.body},
        Unless (· = .exhausted) T (runUsing enter x) (runWithin n x) :=
      (Filter.eventually_all_finite (List.finite_toSet step.body)).mpr ih
    obtain ⟨least, hleast⟩ := (henter.and inner).exists_forall_of_atTop
    refine Filter.eventually_atTop.mpr ⟨least + 1, fun n hn => ?_⟩
    obtain ⟨below, rfl⟩ : ∃ below, n = below + 1 := ⟨n - 1, by omega⟩
    obtain ⟨templates, steps⟩ := hleast below (by omega)
    rw [runUsing_eq]
    change Unless _ T _ (layer (inTurn (runWithin below)) step)
    refine unless_layer noFault_exhausted own ?_ ?_
    · intro notUse
      simp only [inside, notUse, Bool.false_eq_true, if_false]
      exact (nested_unless noFault_exhausted).inTurn steps
    · intro isUse name t ht
      simp only [inside, isUse, if_true]
      exact templates name t ht

private theorem eventually_unless_inTurn {enter : List Step → Exec (List StepResult)}
    (henter : ∀ᶠ n in Filter.atTop, ∀ name t, T.get name = .ok t →
      Unless (· = .exhausted) T (enter t.steps) (inTurn (runWithin n) t.steps))
    {steps : List Step} (hsteps : ∀ step ∈ steps, step.Free isLoop) :
    ∀ᶠ n in Filter.atTop, Unless (· = .exhausted) T (inTurn (runUsing enter) steps)
      (inTurn (runWithin n) steps) := by
  have each : ∀ x ∈ {x | x ∈ steps}, ∀ᶠ n in Filter.atTop,
      Unless (· = .exhausted) T (runUsing enter x) (runWithin n x) :=
    fun x hx => eventually_unless henter (hsteps x hx)
  have all := (Filter.eventually_all_finite (List.finite_toSet steps)).mpr each
  exact all.mono fun n hn => (nested_unless noFault_exhausted).inTurn hn

private theorem enterAtMost_unless
    (hcatalog : ∀ name t, T.get name = .ok t → ∀ x ∈ t.steps, x.Free isLoop)
    (uses : Nat) : ∀ᶠ n in Filter.atTop, ∀ name t, T.get name = .ok t →
      Unless (· = .exhausted) T (enterAtMost uses t.steps) (inTurn (runWithin n) t.steps) := by
  induction uses with
  | zero => exact Filter.Eventually.of_forall fun n name t _ => unless_exhausted _
  | succ uses ih =>
    exact T.eventually_forall fun name t ht => eventually_unless_inTurn ih (hcatalog name t ht)

private theorem runAll_eq (steps : List Step) (w : Surroundings) (s : RunState) :
    runAll steps w s = inTurn (runWithin w.depth) steps w s := by
  unfold runAll
  induction steps generalizing s with
  | nil => rfl
  | cons step rest ih =>
    rcases h : runWithin w.depth step w s with ⟨(e | r), u⟩
    · have own : run step w s = (.error e, u) := h
      rw [inTurn, inTurn, bind_of_error h, bind_of_error own]
    · have own : run step w s = (.ok r, u) := h
      rw [inTurn, inTurn, bind_of_ok h, bind_of_ok own]
      rcases hrest : inTurn (runWithin w.depth) rest w u with ⟨(e | others), v⟩
      · rw [bind_of_error hrest, bind_of_error ((ih u).trans hrest)]
      · rw [bind_of_ok hrest, bind_of_ok ((ih u).trans hrest)]

private theorem runAll_depth (steps : List Step) (w : Surroundings) (n : Nat) (s : RunState) :
    runAll steps { w with depth := n } s = inTurn (runWithin n) steps w s := by
  rw [runAll_eq]
  exact pervasive_depthBlind.working.inTurn (fun x _ => pervasive_depthBlind.runWithin n x) w n s

end Step

namespace Exec

/-- A run has ended with a result, a fault or a breakdown. -/
inductive Concluded {α : Type} : Except Stop α × RunState → Prop
  | result (a : α) (t : RunState) : Concluded (.ok a, t)
  | fault (f : Fault) (t : RunState) : Concluded (.error (.fault f), t)
  | breakdown (text : String) (t : RunState) : Concluded (.error (.breakdown text), t)

end Exec

namespace Step

variable {w : Surroundings}

/-- A run of steps comes to an end: however much deeper steps may lie, it is the same. -/
def Ends (steps : List Step) (w : Surroundings) (s : RunState) : Prop :=
  ∃ r, Concluded r ∧ ∃ depth, ∀ deeper, depth ≤ deeper → runAll steps { w with depth := deeper } s = r

/-- A run of steps in which templates lie at most so many times inside each other. -/
def NestsAtMost (uses : Nat) (steps : List Step) (w : Surroundings) (s : RunState) : Prop :=
  ¬ BrokenOff (· = .exhausted) (inTurn (runUsing (enterAtMost uses)) steps w s)

private theorem ends_iff {steps : List Step} (hw : w.deadlines = [])
    (hsteps : ∀ step ∈ steps, step.Free isLoop)
    (hcatalog : ∀ name t, w.templates.get name = .ok t → ∀ x ∈ t.steps, x.Free isLoop)
    (s : RunState) : Ends steps w s ↔ ∃ uses, NestsAtMost uses steps w s := by
  constructor
  · rintro ⟨r, concluded, depth, same⟩
    refine ⟨depth, ?_⟩
    have here := same depth le_rfl
    rw [runAll_depth] at here
    have nests : Unless (· = .exhausted) w.templates (inTurn (runWithin depth) steps)
        (inTurn (runUsing (enterAtMost depth)) steps) :=
      (nested_unless noFault_exhausted).inTurn fun x hx => runWithin_unless hcatalog le_rfl (hsteps x hx)
    rcases nests w s rfl with ⟨_, t, rfl, broken⟩ | equal
    · rw [here] at broken
      cases concluded with
      | result _ _ | fault _ _ | breakdown _ _ => cases broken
    · rintro ⟨_, t, rfl, broken⟩
      rw [← equal, here] at broken
      cases concluded with
      | result _ _ | fault _ _ | breakdown _ _ => cases broken
  · rintro ⟨uses, lasting⟩
    obtain ⟨depth, same⟩ :=
      (eventually_unless_inTurn (enterAtMost_unless hcatalog uses) hsteps).exists_forall_of_atTop
    refine ⟨inTurn (runUsing (enterAtMost uses)) steps w s, ?_, depth, fun deeper hdeeper => ?_⟩
    · have equal := (same depth le_rfl w s rfl).resolve_left lasting
      have around : CancelledAround (inTurn (runWithin depth) steps) :=
        (entire_timely.working.inTurn fun x _ => entire_timely.runWithin depth x).cancelledAround
      rcases h : inTurn (runUsing (enterAtMost uses)) steps w s with ⟨(e | results), t⟩
      · cases e with
        | fault f => exact .fault f t
        | breakdown text => exact .breakdown text t
        | cancelled n =>
          have few := around w s n t (equal.symm.trans h)
          rw [hw] at few
          exact absurd few (Nat.not_lt_zero n)
        | exhausted => exact absurd ⟨.exhausted, t, rfl, h⟩ lasting
      · exact .result results t
    · rw [runAll_depth]
      exact ((same deeper hdeeper w s rfl).resolve_left lasting).symm

/-- A step can use the template of a name: its own text, or that of a step that stands in it,
resolves to the name in some variables. -/
inductive CanUse (name : String) : Step → Prop
  | own {frame : StepFrame} {template : String} {arguments : Members Json} {scope : Scope}
    {lines : List String} (h : Token.resolveText scope template = .ok ⟨name, lines⟩) :
    CanUse name (.use frame template arguments)
  | inside {step x : Step} (hx : x ∈ step.body) (h : CanUse name x) : CanUse name step

end Step

namespace TemplateCatalog

/-- The template of the first name can use that of the second one. -/
def CanUse (T : TemplateCatalog) (name other : String) : Prop :=
  ∃ t, T.get name = .ok t ∧ (∃ step ∈ t.steps, step.CanUse other) ∧ ∃ t', T.get other = .ok t'

/-- No template can use itself, be it by way of others. -/
def Acyclic (T : TemplateCatalog) : Prop := ∀ name, ¬ Relation.TransGen T.CanUse name name

private theorem Acyclic.wellFounded {T : TemplateCatalog} (h : T.Acyclic) :
    WellFounded fun other name => T.CanUse name other := by
  let Named := {name : String // ∃ t, T.get name = .ok t}
  have finite : Finite Named := by
    refine ((List.finite_toSet (T.suite ++ T.common)).image Prod.fst).subset ?_
    rintro name ⟨t, ht⟩
    exact ⟨(name, t), mem_of_get ht, rfl⟩
  let under (other name : Named) : Prop := Relation.TransGen T.CanUse name.1 other.1
  have : IsTrans Named under := ⟨fun _ _ _ first second => second.trans first⟩
  have : Std.Irrefl under := ⟨fun name => h name.1⟩
  have named : WellFounded under := Finite.wellFounded_of_trans_of_irrefl under
  refine ⟨fun name => ⟨name, fun other uses => ?_⟩⟩
  obtain ⟨-, -, -, found⟩ := uses
  -- Names that are used stand in the catalog, and among those the relation is well-founded.
  have accessible : ∀ other : Named, Acc (fun other name => T.CanUse name other) other.1 := by
    intro other
    induction named.apply other with
    | intro other _ ih =>
      refine ⟨other.1, fun inner inside => ?_⟩
      obtain ⟨-, -, -, found⟩ := id inside
      exact ih ⟨inner, found⟩ (.single inside)
  exact accessible ⟨other, found⟩

end TemplateCatalog

namespace Step

variable {T : TemplateCatalog} {w : Surroundings}

private theorem lasting_use {body : List Step → Exec (List StepResult)} {frame : StepFrame}
    {template : String}
    {arguments : Members Json} (h : ∀ name t, (Step.use frame template arguments).CanUse name →
      T.get name = .ok t → Lasting (·.templates = T) (body t.steps)) :
    Lasting (·.templates = T) (Use.run template arguments body) := by
  have ordinary := ordinary_lasting (·.templates = T)
  refine (ordinary.working.resolveText template).bind_of_ok fun name w s u _ hname => ?_
  obtain ⟨lines, resolved, -⟩ := resolving_eq_ok.mp hname
  refine lasting_surroundings_bind fun w hw => ?_
  refine (ordinary.working.ofDefinition _).bind_of_ok fun t w' s' u' _ ht => ?_
  obtain ⟨found, -⟩ := ofDefinition_eq_ok.mp ht
  refine Lasting.bind (ordinary.working.resolving (Token.ignoresLog_expandMembers arguments)) fun a => ?_
  have steps := h name t (.own resolved) (hw ▸ found)
  exact ordinary.nested.expand (fun c _ => (ordinary.working.naming steps _).apart c) name a

private theorem lasting_layer {body : List Step → Exec (List StepResult)} {step : Step}
    (hstep : step.isLoop = false) (hbody : step.isUse = false → Lasting (·.templates = T) (body step.body))
    (htemplates : step.isUse = true → ∀ name t, step.CanUse name → T.get name = .ok t →
      Lasting (·.templates = T) (body t.steps)) :
    Lasting (·.templates = T) (layer body step) := by
  have ordinary := ordinary_lasting (·.templates = T)
  refine Lasting.bind (ordinary.working.naming ?_ _) fun o => ordinary.nested.complete step.frame o
  cases step with
  | wait frame duration => exact ordinary.working.wait body frame duration
  | check frame => exact ordinary.pure _
  | each frame items itemKey indexKey steps => exact ordinary.working.each (hbody rfl) _ _ _
  | loop frame condition timeout steps => cases hstep
  | request frame call => exact ordinary.working.call call
  | use frame template arguments => exact lasting_use (htemplates rfl)
  | foreign frame work => exact ordinary.foreign work

private theorem lasting_runUsing {enter : List Step → Exec (List StepResult)} {step : Step}
    (hstep : step.Free isLoop)
    (henter : ∀ name t, step.CanUse name → T.get name = .ok t → Lasting (·.templates = T) (enter t.steps)) :
    Lasting (·.templates = T) (runUsing enter step) := by
  induction hstep with
  | @intro step own _ ih =>
    rw [runUsing_eq]
    refine lasting_layer own ?_ ?_
    · intro notUse
      simp only [inside, notUse, Bool.false_eq_true, if_false]
      refine (ordinary_lasting (·.templates = T)).working.inTurn fun x hx => ih x hx fun name t uses => ?_
      exact henter name t (.inside hx uses)
    · intro isUse name t uses found
      simp only [inside, isUse, if_true]
      exact henter name t uses found

private theorem eventually_lasting (hacyclic : T.Acyclic)
    (hcatalog : ∀ name t, T.get name = .ok t → ∀ x ∈ t.steps, x.Free isLoop) {name : String}
    {t : Template} (ht : T.get name = .ok t) :
    ∀ᶠ uses in Filter.atTop, Lasting (·.templates = T) (enterAtMost uses t.steps) := by
  induction name using hacyclic.wellFounded.induction generalizing t with
  | _ name ih =>
    have used : ∀ᶠ uses in Filter.atTop, ∀ other t', T.get other = .ok t' → T.CanUse name other →
        Lasting (·.templates = T) (enterAtMost uses t'.steps) := by
      refine T.eventually_forall fun other t' ht' => ?_
      by_cases uses : T.CanUse name other
      · exact (ih other uses ht').mono fun _ lasting _ => lasting
      · exact Filter.Eventually.of_forall fun _ can => absurd can uses
    obtain ⟨least, hleast⟩ := used.exists_forall_of_atTop
    refine Filter.eventually_atTop.mpr ⟨least + 1, fun uses huses => ?_⟩
    obtain ⟨below, rfl⟩ : ∃ below, uses = below + 1 := ⟨uses - 1, by omega⟩
    refine (ordinary_lasting (·.templates = T)).working.inTurn fun x hx => ?_
    refine lasting_runUsing (hcatalog name t ht x hx) fun other t' can ht' => ?_
    exact hleast below (by omega) other t' ht' ⟨t, ht, ⟨x, hx, can⟩, t', ht'⟩

private theorem exists_nestsAtMost {steps : List Step} (hacyclic : w.templates.Acyclic)
    (hsteps : ∀ step ∈ steps, step.Free isLoop)
    (hcatalog : ∀ name t, w.templates.get name = .ok t → ∀ x ∈ t.steps, x.Free isLoop) :
    ∃ uses, ∀ s, NestsAtMost uses steps w s := by
  have all := w.templates.eventually_forall fun name t ht => eventually_lasting hacyclic hcatalog ht
  obtain ⟨uses, huses⟩ := all.exists
  refine ⟨uses, fun s => ?_⟩
  have lasting : Lasting (·.templates = w.templates) (inTurn (runUsing (enterAtMost uses)) steps) :=
    (ordinary_lasting _).working.inTurn fun x hx =>
      lasting_runUsing (hsteps x hx) fun name t _ ht => huses name t ht
  exact lasting w s rfl

/-- Steps without loops under a condition, over templates without such loops, come to an end with
results, a fault or a breakdown if and only if templates use templates only so many times inside
each other. Where no template can use itself, whatever the names that its texts resolve to, all such
runs come to an end. -/
theorem run_without_loops_ends {steps : List Step} (hw : w.deadlines = [])
    (hsteps : ∀ step ∈ steps, step.Free isLoop)
    (hcatalog : ∀ name t, w.templates.get name = .ok t → ∀ x ∈ t.steps, x.Free isLoop) :
    (∀ s, Ends steps w s ↔ ∃ uses, NestsAtMost uses steps w s) ∧
      (w.templates.Acyclic → ∀ s, Ends steps w s) := by
  refine ⟨ends_iff hw hsteps hcatalog, fun hacyclic s => ?_⟩
  obtain ⟨uses, nests⟩ := exists_nestsAtMost hacyclic hsteps hcatalog
  exact (ends_iff hw hsteps hcatalog s).mpr ⟨uses, nests s⟩

private theorem CanUse.eq_of_plain {frame : StepFrame} {template name : String}
    {arguments : Members Json}
    (h : (Step.use frame template arguments).CanUse name)
    (hvariable : Token.variableName? template = none) (hplain : Token.hasTokens template = false) :
    name = template := by
  cases h with
  | own resolved =>
    rw [Token.resolveText, Token.resolve, Token.resolveWithin_of_plain hvariable hplain] at resolved
    cases resolved
    rfl
  | inside hx _ => cases hx

/-- A template that uses another one in each round of a loop, and that other one. -/
def layered : TemplateCatalog :=
  let frame := StepFrame.saving []
  ⟨[("outer", ⟨"outer", none, [], [.each frame (.array [.null, .null]) "$.ctx.item" "$.ctx.index"
      [.use frame "inner" []]], []⟩)],
    [("inner", ⟨"inner", none, [], [.wait frame (.nat 1)], []⟩)]⟩

/-- A use of the template whose name stands among the variables. -/
def usePicked : List Step := [.use (.saving []) "{{$.ctx.pick}}" []]

private theorem layered_acyclic : layered.Acyclic := by
  have only {name other : String} (h : layered.CanUse name other) : name = "outer" ∧ other = "inner" := by
    obtain ⟨t, ht, ⟨step, hstep, can⟩, -⟩ := h
    have member := TemplateCatalog.mem_of_get ht
    simp only [layered, List.cons_append, List.nil_append, List.mem_cons, List.not_mem_nil, or_false,
      Prod.mk.injEq] at member
    rcases member with ⟨rfl, rfl⟩ | ⟨rfl, rfl⟩
    · obtain rfl := List.mem_singleton.mp hstep
      cases can with
      | inside hx can =>
        obtain rfl := List.mem_singleton.mp hx
        exact ⟨rfl, can.eq_of_plain (by decide +kernel) (by decide +kernel)⟩
    · obtain rfl := List.mem_singleton.mp hstep
      cases can with
      | inside hx _ => cases hx
  intro name cycle
  obtain ⟨first, start, -⟩ := Relation.TransGen.head'_iff.mp cycle
  obtain ⟨last, -, stop⟩ := Relation.TransGen.tail'_iff.mp cycle
  have outer := (only start).1
  have inner := (only stop).2
  rw [outer] at inner
  exact absurd inner (by decide)

def outerPicked : RunState :=
  { RunState.initial with
    context := Context.empty.putRoot Context.ctxRoot (.object [("pick", .string "outer")]) }

theorem layered_ends : Ends usePicked (.still layered) outerPicked := by
  refine (run_without_loops_ends rfl ?_ ?_).2 layered_acyclic outerPicked
  · intro step hstep
    obtain rfl := List.mem_singleton.mp hstep
    exact .intro rfl (by simp [body])
  · intro name t ht x hx
    have member := TemplateCatalog.mem_of_get ht
    simp only [Surroundings.still, layered, List.cons_append, List.nil_append, List.mem_cons,
      List.not_mem_nil, or_false, Prod.mk.injEq] at member
    rcases member with ⟨rfl, rfl⟩ | ⟨rfl, rfl⟩
    · obtain rfl := List.mem_singleton.mp hx
      refine .intro rfl fun y hy => ?_
      obtain rfl := List.mem_singleton.mp hy
      exact .intro rfl (by simp [body])
    · obtain rfl := List.mem_singleton.mp hx
      exact .intro rfl (by simp [body])

def recurring : TemplateCatalog :=
  ⟨[("again", ⟨"again", none, [], [.use (.saving []) "again" []], []⟩)], []⟩

def useAgain : List Step := [.use (.saving []) "again" []]

private theorem brokenOff_useAgain {enter : List Step → Exec (List StepResult)}
    (hw : w.templates = recurring)
    (h : ∀ s, BrokenOff (· = .exhausted) (enter useAgain w s)) (s : RunState) :
    BrokenOff (· = .exhausted) (inTurn (runUsing enter) useAgain w s) := by
  have plain (t : RunState) : resolveText "again" w t =
      (.ok "again", { t with context := t.context.logLines [] }) := by
    refine resolving_of_ok ?_
    rw [Token.resolveText, Token.resolve,
      Token.resolveWithin_of_plain (by decide +kernel) (by decide +kernel)]
    rfl
  have given (t : RunState) : resolving (fun scope => Token.expandMembers (Token.resolve scope) [])
      w t = (.ok [], { t with context := t.context.logLines [] }) :=
    resolving_of_ok rfl
  refine BrokenOff.bind (BrokenOff.bind (BrokenOff.naming noFault_exhausted ?_ _))
  change BrokenOff _ (Use.run "again" [] enter w s)
  rw [Use.run, bind_of_ok (plain s), bind_of_ok (surroundings_run _ _), hw]
  change BrokenOff _ ((resolving (fun scope => Token.expandMembers (Token.resolve scope) []) >>= fun a =>
    Use.expand "again" ⟨"again", none, [], useAgain, []⟩ a enter) w _)
  have bound : Template.bind ⟨"again", none, [], useAgain, []⟩ [] = .ok [] := rfl
  rw [bind_of_ok (given _), Use.expand, bind_of_ok (ofDefinition_eq_ok.mpr ⟨bound, rfl⟩),
    bind_of_ok (Use.enter_run [] _ _)]
  exact BrokenOff.bind (BrokenOff.apart (BrokenOff.naming noFault_exhausted (h _) _))

def answering : Surroundings :=
  { Surroundings.still recurring with transport := fun _ _ => .ok ⟨200, [], "", 0⟩ }

/-- A template that uses itself never comes to an end, although there is no loop. -/
theorem useAgain_does_not_end :
    (∀ step ∈ useAgain, step.Free isLoop) ∧
      (∀ name t, recurring.get name = .ok t → ∀ x ∈ t.steps, x.Free isLoop) ∧
      ¬ Ends useAgain answering .initial := by
  have free : ∀ step ∈ useAgain, step.Free isLoop := by
    intro step hstep
    obtain rfl := List.mem_singleton.mp hstep
    exact .intro rfl (by simp [body])
  have catalog : ∀ name t, recurring.get name = .ok t → ∀ x ∈ t.steps, x.Free isLoop := by
    intro name t ht
    cases List.mem_singleton.mp (TemplateCatalog.mem_of_get ht)
    exact free
  refine ⟨free, catalog, fun ends => ?_⟩
  obtain ⟨uses, nests⟩ := (ends_iff rfl free catalog .initial).mp ends
  refine nests ?_
  have given_up (uses : Nat) (s : RunState) :
      BrokenOff (· = .exhausted) (enterAtMost uses useAgain answering s) := by
    induction uses generalizing s with
    | zero => exact ⟨.exhausted, s, rfl, rfl⟩
    | succ uses ih => exact brokenOff_useAgain rfl ih s
  exact brokenOff_useAgain rfl (given_up uses) .initial

end Step

end Assay
