/- digest: Runs that come upon no step of some kind: such a run is the same as one in which every
   step of that kind ends all. -/

import Assay.Proofs.Exec.Approximation

set_option autoImplicit false
set_option relaxedAutoImplicit false

namespace Assay

open Exec

namespace Step

/-- No banned step stands in a step at any depth. -/
inductive Free (banned : Step → Bool) : Step → Prop
  | intro {step : Step} (own : banned step = false) (inside : ∀ x ∈ step.body, Free banned x) :
    Free banned step

/-- Runs a step in which steps lie at most so many levels deep; a banned step, wherever it comes up,
is the end of the whole run. -/
def runWithout (banned : Step → Bool) : Nat → Step → Exec StepResult
  | 0, _ => throw .exhausted
  | levels + 1, step =>
    if banned step then throw .exhausted else runLayer (runWithout banned levels) step

/-- A step comes upon no banned step, be it itself, in its loops or in templates: that such a step
would end the run makes no difference. -/
def Avoids (banned : Step → Bool) (step : Step) (w : Surroundings) (s : RunState) : Prop :=
  runWithout banned w.depth step w s = step.run w s

variable {banned : Step → Bool}

theorem runWithout_none (levels : Nat) : runWithout (fun _ => false) levels = runWithin levels := by
  induction levels with
  | zero => rfl
  | succ levels ih =>
    funext step
    simp only [runWithout, runWithin, ih, Bool.false_eq_true, if_false]

/-- What every layer of steps that are not banned gives, the whole run gives. -/
theorem gives_runWithout {P : StepResult → Prop}
    (h : ∀ (inner : Step → Exec StepResult), (∀ step, Gives P (inner step)) →
      ∀ step, banned step = false → Gives P (runLayer inner step)) (levels : Nat) (step : Step) :
    Gives P (runWithout banned levels step) := by
  induction levels generalizing step with
  | zero => exact gives_throw _
  | succ levels ih =>
    unfold runWithout
    split
    · exact gives_throw _
    · rename_i allowed
      exact h _ ih step (by simpa using allowed)

theorem Free.avoids {step : Step} {w : Surroundings} (hstep : step.Free banned)
    (htemplates : ∀ name t, w.templates.get name = .ok t → ∀ x ∈ t.steps, x.Free banned)
    (s : RunState) : step.Avoids banned w s := by
  have congruent : NestedCongruence _ fun _ x y => Unless (fun _ => False) w.templates x y :=
    nested_unless fun _ => id
  have same (levels : Nat) {step : Step} (hstep : step.Free banned) : Unless (fun _ => False) w.templates
      (runWithout banned levels step) (runWithin levels step) := by
    induction levels generalizing step with
    | zero => exact Unless.refl _ _ _
    | succ levels ih =>
      obtain ⟨own, inside⟩ := hstep
      -- The steps of templates are no part of the tree: they come from the catalog, one level down.
      simp only [runWithout, own, Bool.false_eq_true, if_false]
      have work : Unless (fun _ => False) w.templates (step.work (inTurn (runWithout banned levels)))
          (step.work (inTurn (runWithin levels))) := by
        refine unless_work (fun _ => id) (fun _ _ => id) ?_ ?_
        · exact fun _ => congruent.inTurn fun x hx => ih (inside x hx)
        · exact fun _ name t ht => congruent.inTurn fun x hx => ih (htemplates name t ht x hx)
      exact (congruent.naming work _).bind fun _ => Unless.refl _ _ _
  exact (same w.depth hstep w s rfl).resolve_left fun ⟨_, _, impossible, _⟩ => impossible

end Step

end Assay
