/- digest: Computations that are broken off for more reasons than others, and otherwise do the same:
   what is built from them is related in the same way. -/

import Assay.Proofs.Exec.Congruence

set_option autoImplicit false
set_option relaxedAutoImplicit false

namespace Assay

namespace Exec

variable {α β : Type} {bad : Stop → Prop} {T : TemplateCatalog}

/-- A computation was broken off for one of some reasons. -/
def BrokenOff (bad : Stop → Prop) (r : Except Stop α × RunState) : Prop :=
  ∃ e t, bad e ∧ r = (.error e, t)

/-- Reasons that are not faults: these alone are handled inside a run. -/
def NoFault (bad : Stop → Prop) : Prop := ∀ f, ¬ bad (.fault f)

theorem noFault_exhausted : NoFault (· = .exhausted) := fun _ equal => by cases equal

/-- Wherever the templates are the given ones, the first computation is broken off for one of some
reasons, or both do the same. -/
def Unless (bad : Stop → Prop) (T : TemplateCatalog) (x y : Exec α) : Prop :=
  ∀ w s, w.templates = T → BrokenOff bad (x w s) ∨ x w s = y w s

variable {x y : Exec α} {f g : α → Exec β}

theorem Unless.refl (bad : Stop → Prop) (T : TemplateCatalog) (x : Exec α) : Unless bad T x x :=
  fun _ _ _ => Or.inr rfl

theorem unless_exhausted (y : Exec α) : Unless (· = .exhausted) T (throw .exhausted) y :=
  fun _ s _ => Or.inl ⟨.exhausted, s, rfl, rfl⟩

theorem BrokenOff.bind {w : Surroundings} {s : RunState} (h : BrokenOff bad (x w s)) :
    BrokenOff bad ((x >>= f) w s) := by
  obtain ⟨e, t, he, hx⟩ := h
  exact ⟨e, t, he, bind_of_error hx⟩

private theorem BrokenOff.attempt (hbad : NoFault bad) {w : Surroundings} {s : RunState}
    (h : BrokenOff bad (x w s)) : BrokenOff bad (attempt x w s) := by
  obtain ⟨e, t, he, hx⟩ := h
  exact ⟨e, t, he, attempt_of_stop hx fun f equal => hbad f (equal ▸ he)⟩

theorem BrokenOff.naming (hbad : NoFault bad) {w : Surroundings} {s : RunState}
    (h : BrokenOff bad (x w s)) (text : String) : BrokenOff bad (naming text x w s) :=
  (h.attempt hbad).bind

theorem BrokenOff.apart {c : Context} {w : Surroundings} {s : RunState}
    (h : BrokenOff bad (x w { s with context := c })) : BrokenOff bad (apart c x w s) := by
  obtain ⟨e, t, he, hx⟩ := h
  exact ⟨e, { t with context := s.context }, he, by simp only [Exec.apart, hx]⟩

theorem Unless.bind (h : Unless bad T x y) (hf : ∀ a, Unless bad T (f a) (g a)) :
    Unless bad T (x >>= f) (y >>= g) := by
  intro w s hw
  rcases h w s hw with broken | same
  · exact Or.inl broken.bind
  · rcases hx : x w s with ⟨(e | a), u⟩
    · exact Or.inr ((bind_of_error hx).trans (bind_of_error (same.symm.trans hx)).symm)
    · rw [bind_of_ok hx, bind_of_ok (same.symm.trans hx)]
      exact hf a w u hw

theorem unless_bind (hf : ∀ a, Unless bad T (f a) (g a)) : Unless bad T (x >>= f) (x >>= g) :=
  (Unless.refl bad T x).bind hf

private theorem unless_surroundings_bind {f g : Surroundings → Exec β}
    (h : ∀ w, w.templates = T → Unless bad T (f w) (g w)) :
    Unless bad T (surroundings >>= f) (surroundings >>= g) := fun w s hw => h w hw w s hw

private theorem Unless.attempt (hbad : NoFault bad) (h : Unless bad T x y) :
    Unless bad T (attempt x) (attempt y) := by
  intro w s hw
  rcases h w s hw with broken | same
  · exact Or.inl (broken.attempt hbad)
  · exact Or.inr (by simp only [Exec.attempt, same])

theorem Unless.apart (h : Unless bad T x y) (c : Context) :
    Unless bad T (apart c x) (apart c y) := by
  intro w s hw
  rcases h w { s with context := c } hw with broken | same
  · exact Or.inl broken.apart
  · exact Or.inr (by simp only [Exec.apart, same])

private theorem Unless.underDeadline (hbad : ∀ n, ¬ bad (.cancelled n)) (h : Unless bad T x y)
    (deadline : Nat) :
    Unless bad T (underDeadline deadline x) (underDeadline deadline y) := by
  intro w s hw
  rcases h { w with deadlines := deadline :: w.deadlines } s hw with ⟨e, t, he, hx⟩ | same
  · cases e with
    | cancelled n => exact absurd he (hbad n)
    | fault _ | breakdown _ | exhausted =>
      exact Or.inl ⟨_, t, he, by simp only [Exec.underDeadline, hx]⟩
  · exact Or.inr (by simp only [Exec.underDeadline, same])

/-- What every computation stands in to itself lasts when computations are put together. -/
theorem nested_unless (hbad : NoFault bad) :
    NestedCongruence (fun t => ∃ name, T.get name = .ok t) fun _ x y => Unless bad T x y where
  own := (Nested.of_forall fun _ x => Unless.refl bad T x).toWriting
  apart := .of_forall fun _ x => Unless.refl bad T x
  bind := Unless.bind
  attempt := Unless.attempt hbad
  recalling _ _ h := unless_bind h
  lookup name h := by
    refine unless_surroundings_bind fun w hw => ?_
    rw [hw]
    rcases found : T.get name with e | t
    · exact Unless.refl bad T _
    · exact fun w s hw => h t ⟨name, found⟩ w s hw

theorem timed_unless (hbad : NoFault bad) (hcancelled : ∀ n, ¬ bad (.cancelled n)) :
    TimedCongruence fun _ x y => Unless bad T x y where
  toCongruence := (nested_unless hbad).toCongruence
  quiet := .of_forall fun _ x => Unless.refl bad T x
  exhausted := Unless.refl bad T _
  underDeadline deadline h := h.underDeadline hcancelled deadline
  reading _ _ h := unless_bind h

end Exec

open Exec

variable {bad : Stop → Prop} {T : TemplateCatalog}

namespace Step

def isLoop : Step → Bool
  | .loop _ _ _ _ => true
  | _ => false

def isUse : Step → Bool
  | .use _ _ _ => true
  | _ => false

def body : Step → List Step
  | .each _ _ _ _ steps => steps
  | .loop _ _ _ steps => steps
  | _ => []

/-- Runs a step; `body` gives the results of the steps inside it and of those of templates. -/
def layer (body : List Step → Exec (List StepResult)) (step : Step) : Exec StepResult := do
  let outcome ← naming (step.frame.kind ++ " step '" ++ step.frame.label ++ "' failed")
    (step.work body)
  complete step.frame outcome

theorem unless_work (hbad : NoFault bad) {run other : List Step → Exec (List StepResult)}
    {step : Step}
    (hloop : step.isLoop = true → ∀ n, ¬ bad (.cancelled n))
    (hbody : step.isUse = false → Unless bad T (run step.body) (other step.body))
    (htemplates : step.isUse = true → ∀ name t, T.get name = .ok t →
      Unless bad T (run t.steps) (other t.steps)) :
    Unless bad T (step.work run) (step.work other) := by
  have nested := nested_unless (T := T) hbad
  cases step with
  | each frame items itemKey indexKey steps => exact nested.each (hbody rfl) _ _ _
  | loop frame condition timeout steps => exact (timed_unless hbad (hloop rfl)).loop (hbody rfl) _ _
  | use frame template arguments =>
    refine nested.use (fun t ⟨name, found⟩ c text => Unless.apart (nested.naming ?_ text) c) _ _
    exact htemplates rfl name t found
  | wait _ _ | check _ | request _ _ | foreign _ _ => exact Unless.refl bad T _

theorem unless_layer (hbad : NoFault bad) {run other : List Step → Exec (List StepResult)}
    {step : Step} (hstep : step.isLoop = false)
    (hbody : step.isUse = false → Unless bad T (run step.body) (other step.body))
    (htemplates : step.isUse = true → ∀ name t, T.get name = .ok t →
      Unless bad T (run t.steps) (other t.steps)) :
    Unless bad T (layer run step) (layer other step) := by
  have work := unless_work hbad (by simp [hstep]) hbody htemplates
  exact ((nested_unless hbad).naming work _).bind fun _ => Unless.refl bad T _

end Step

end Assay
