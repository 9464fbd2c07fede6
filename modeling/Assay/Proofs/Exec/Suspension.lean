/- digest: Where a run can be broken off: only while it waits, sends or gives way. Work on variables
   is done in one go. -/

import Assay.Proofs.Exec.Invariant

set_option autoImplicit false
set_option relaxedAutoImplicit false

namespace Assay

/-- The same variables, whatever was logged. -/
def Context.SameRoots (c d : Context) : Prop := d.env = c.env ∧ d.roots = c.roots

theorem Context.SameRoots.refl (c : Context) : SameRoots c c := ⟨rfl, rfl⟩

theorem Context.SameRoots.logBlind (c : Context) : LogBlind (SameRoots c) := fun _ _ h => h

namespace Exec

variable {α β : Type} {I : Context → Prop} {x : Exec α} {f : α → Exec β}

/-- A computation that no deadline breaks off. -/
def Prompt (x : Exec α) : Prop := ∀ w s n t, x w s ≠ (.error (.cancelled n), t)

private theorem prompt_of_end {r : Surroundings → RunState → Except Stop α}
    {next : Surroundings → RunState → RunState} (h : ∀ w s, x w s = (r w s, next w s))
    (hr : ∀ w s n, r w s ≠ .error (.cancelled n)) : Prompt x := by
  intro w s n t run
  rw [h] at run
  exact hr w s n (congrArg Prod.fst run)

private theorem prompt_of_ok {a : Surroundings → RunState → α}
    {next : Surroundings → RunState → RunState}
    (h : ∀ w s, x w s = (.ok (a w s), next w s)) : Prompt x :=
  prompt_of_end h (by simp)

theorem prompt_pure (a : α) : Prompt (pure a) := prompt_of_ok (pure_run a)

theorem prompt_fault (g : Fault) : Prompt (fault g : Exec α) := prompt_of_end (fault_run g)
    (by simp)

theorem Prompt.bind (hx : Prompt x) (hf : ∀ a, Prompt (f a)) : Prompt (x >>= f) := by
  intro w s n t run
  rcases bind_eq_error.mp run with first | ⟨a, u, -, second⟩
  · exact hx w s n t first
  · exact hf a w u n t second

private theorem Prompt.attempt (hx : Prompt x) : Prompt (attempt x) := by
  intro w s n t run
  rcases h : x w s with ⟨(e | a), u⟩
  · cases e with
    | fault g => simp [attempt_of_fault h] at run
    | cancelled n => exact hx w s n u h
    | breakdown _ | exhausted => simp [attempt_of_stop h] at run
  · simp [attempt_of_ok h] at run

private theorem Prompt.apart (hx : Prompt x) (c : Context) : Prompt (apart c x) := by
  intro w s n t run
  rcases h : x w { s with context := c } with ⟨(e | a), u⟩
  · simp only [Exec.apart, h, end_error_inj] at run
    exact hx w _ n u (run.1 ▸ h)
  · simp [Exec.apart, h] at run

theorem immediate_prompt : Immediate fun _ x => Prompt x where
  pure := prompt_pure
  fault := prompt_fault
  breakdown _ := prompt_of_end (throw_run _) (by simp)
  bind := Prompt.bind
  attempt := Prompt.attempt
  apart c hx := hx.apart c
  context := prompt_of_ok context_run
  setContext c := prompt_of_ok (setContext_run c)
  reading _ hf := fun w s => hf w w s

theorem nested_prompt : Nested fun _ x => Prompt x := immediate_prompt.nested

theorem prompt_readClock : Prompt readClock := prompt_of_ok fun _ _ => rfl

variable {w : Surroundings} {s t : RunState} {n : Nat}

theorem Prompt.of_bind_cancelled (hx : Prompt x) (h : (x >>= f) w s = (.error (.cancelled n), t)) :
    ∃ a u, x w s = (.ok a, u) ∧ f a w u = (.error (.cancelled n), t) := by
  rcases bind_eq_error.mp h with first | second
  · exact absurd first (hx w s n t)
  · exact second

theorem cancelled_of_bind_prompt (hf : ∀ a, Prompt (f a))
    (h : (x >>= f) w s = (.error (.cancelled n), t)) : x w s = (.error (.cancelled n), t) := by
  rcases bind_eq_error.mp h with first | ⟨a, u, -, second⟩
  · exact first
  · exact absurd second (hf a w u n t)

/-- Whether a computation is broken off by the innermost loop around. -/
def breaksOff (x : Exec α) (w : Surroundings) (s : RunState) : Bool :=
  match x w s with
  | (.error (.cancelled 0), _) => true
  | _ => false

theorem cancelled_of_breaksOff (h : x.breaksOff w s = true) :
    ∃ t, x w s = (.error (.cancelled 0), t) := by
  unfold breaksOff at h
  split at h
  · rename_i t run
    exact ⟨t, run⟩
  · cases h

theorem naming_eq_cancelled {text : String} :
    naming text x w s = (.error (.cancelled n), t) ↔ x w s = (.error (.cancelled n), t) := by
  rcases h : x w s with ⟨(e | a), u⟩
  · cases e with
    | fault g => simp [naming_of_fault h]
    | breakdown _ | cancelled _ | exhausted => simp [naming_of_stop h]
  · simp [naming_eq_ok.mpr h]

/-- A computation from variables with a property that is broken off leaves variables with that
property. -/
private def CutsIn (I : Context → Prop) (x : Exec α) : Prop :=
  ∀ w s n t, I s.context → x w s = (.error (.cancelled n), t) → I t.context

private theorem Keeps.cutsIn (hx : Keeps I x) : CutsIn I x := fun _ _ _ _ hs run => hx.of_run hs run

private theorem Keeps.bind_cutsIn (hx : Keeps I x) (hf : ∀ a, CutsIn I (f a)) :
    CutsIn I (x >>= f) := by
  intro w s n t hs run
  rcases bind_eq_error.mp run with first | ⟨a, u, first, second⟩
  · exact hx.of_run hs first
  · exact hf a w u n t (hx.of_run hs first) second

private theorem CutsIn.bind_prompt (hx : CutsIn I x) (hf : ∀ a, Prompt (f a)) :
    CutsIn I (x >>= f) := by
  intro w s n t hs run
  exact hx w s n t hs (cancelled_of_bind_prompt hf run)

end Exec

namespace Step

open Exec

variable {I : Context → Prop}

theorem cutsIn_wait (hI : LogBlind I) (frame : StepFrame) (duration : Json)
    (body : List Step → Exec (List StepResult)) : CutsIn I ((Step.wait frame duration).work body) :=
  ((quiet_keeps hI).wait body frame duration).cutsIn

theorem cutsIn_call (hI : LogBlind I) (call : Http.Call) : CutsIn I call.run := by
  refine ((quiet_keeps hI).buildRequest call).bind_cutsIn fun request => ?_
  refine (keeps_send request).cutsIn.bind_prompt fun response => ?_
  exact (nested_prompt.writeRoot _ _).bind fun _ => prompt_pure _

theorem cutsIn_use (hI : LogBlind I) (template : String) (arguments : Members Json)
    (body : List Step → Exec (List StepResult)) : CutsIn I (Use.run template arguments body) := by
  refine (keeps_resolving hI _).bind_cutsIn fun name => keeps_surroundings.bind_cutsIn fun w => ?_
  refine ((quiet_keeps hI).ofDefinition _).bind_cutsIn fun t => ?_
  refine (keeps_resolving hI _).bind_cutsIn fun given => ?_
  refine ((quiet_keeps hI).ofDefinition _).bind_cutsIn fun parameters => ?_
  have entered : Keeps I (Use.enter parameters) :=
    keeps_context.bind fun _ => (keeps_apart _ _).bind fun _ => keeps_pure _
  refine entered.bind_cutsIn fun inside => (keeps_apart _ _).cutsIn.bind_prompt fun r => ?_
  refine (nested_prompt.deliver _ _ _ _).bind fun d => nested_prompt.addLines _ ?_
  exact (nested_prompt.writeRoot _ _).bind fun _ => prompt_pure _

end Step

end Assay
