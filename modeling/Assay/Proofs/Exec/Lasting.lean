/- digest: Runs that are never given up: all there is but steps inside each other and loops under a
   condition. -/

import Assay.Proofs.Exec.Approximation
import Assay.Proofs.Exec.Pervasive

set_option autoImplicit false
set_option relaxedAutoImplicit false

namespace Assay.Exec

variable {α β : Type}

/-- A computation is not given up in surroundings of some kind. -/
def Lasting (H : Surroundings → Prop) (x : Exec α) : Prop :=
  ∀ w s, H w → ¬ BrokenOff (· = .exhausted) (x w s)

section Lasting

variable {H : Surroundings → Prop} {x : Exec α} {f : α → Exec β}

private theorem lasting_of_end {r : Surroundings → RunState → Except Stop α}
    {next : Surroundings → RunState → RunState} (h : ∀ w s, x w s = (r w s, next w s))
    (hr : ∀ w s, r w s ≠ .error .exhausted) : Lasting H x := by
  rintro w s _ ⟨_, t, rfl, hx⟩
  rw [h] at hx
  exact hr w s (congrArg Prod.fst hx)

theorem lasting_of_ok {a : Surroundings → RunState → α} {next : Surroundings → RunState → RunState}
    (h : ∀ w s, x w s = (.ok (a w s), next w s)) : Lasting H x :=
  lasting_of_end h (by simp)

private theorem lasting_throw {e : Stop} (h : e ≠ .exhausted) : Lasting H (throw e : Exec α) :=
  lasting_of_end (throw_run e) fun _ _ equal => h (Except.error.inj equal)

theorem Lasting.bind_of_ok (hx : Lasting H x)
    (hf : ∀ a w s t, H w → x w s = (.ok a, t) → Lasting H (f a)) : Lasting H (x >>= f) := by
  rintro w s hw ⟨_, t, rfl, hrun⟩
  rcases h : x w s with ⟨(e | a), u⟩
  · rw [bind_of_error h, end_error_inj] at hrun
    exact hx w s hw ⟨e, u, hrun.1, h⟩
  · rw [Exec.bind_of_ok h] at hrun
    exact hf a w s u hw h w u hw ⟨.exhausted, t, rfl, hrun⟩

theorem Lasting.bind (hx : Lasting H x) (hf : ∀ a, Lasting H (f a)) : Lasting H (x >>= f) :=
  hx.bind_of_ok fun a _ _ _ _ _ => hf a

theorem Lasting.attempt (hx : Lasting H x) : Lasting H (attempt x) := by
  rintro w s hw ⟨_, t, rfl, hrun⟩
  rcases h : x w s with ⟨(e | a), u⟩
  · cases e with
    | fault f =>
      rw [attempt_of_fault h] at hrun
      simp at hrun
    | breakdown _ | cancelled _ | exhausted =>
      rw [attempt_of_stop h (by simp), end_error_inj] at hrun
      exact hx w s hw ⟨_, u, hrun.1, h⟩
  · rw [attempt_of_ok h] at hrun
    simp at hrun

theorem Lasting.apart (hx : Lasting H x) (c : Context) : Lasting H (apart c x) := by
  rintro w s hw ⟨_, t, rfl, hrun⟩
  rcases h : x w { s with context := c } with ⟨(e | a), u⟩
  · simp only [Exec.apart, h, Prod.mk.injEq, Except.error.injEq] at hrun
    exact hx w _ hw ⟨e, u, hrun.1, h⟩
  · simp [Exec.apart, h] at hrun

theorem lasting_surroundings_bind {f : Surroundings → Exec β}
    (hf : ∀ w, H w → Lasting H (f w)) : Lasting H (surroundings >>= f) :=
  fun w s hw => hf w hw w s hw

private theorem lasting_waitTo (time : Nat) : Lasting H (waitTo time) := by
  refine lasting_surroundings_bind fun w _ => ?_
  split
  · exact lasting_of_ok (modify_run _)
  · exact Lasting.bind (lasting_of_ok (modify_run _)) fun _ => lasting_throw (by simp)

private theorem lasting_send (request : Http.Request) : Lasting H (send request) := by
  rw [send_eq]
  refine lasting_surroundings_bind fun w _ => Lasting.bind (lasting_of_ok get_run) fun s => ?_
  refine Lasting.bind (lasting_of_ok (modify_run _)) fun _ => ?_
  refine receive_induction (fun _ => lasting_of_ok (pure_run _)) (fun _ => lasting_throw (by simp))
    (fun x delay hx => ?_) _ _ _
  exact Lasting.bind (lasting_of_ok get_run) fun t => (lasting_waitTo _).bind fun _ => hx

theorem ordinary_lasting (H : Surroundings → Prop) : Ordinary fun _ x => Lasting H x where
  pure a := lasting_of_ok (pure_run a)
  fault _ := lasting_throw (by simp)
  breakdown _ := lasting_throw (by simp)
  bind := Lasting.bind
  attempt := Lasting.attempt
  apart c hx := hx.apart c
  context := lasting_of_ok context_run
  setContext c := lasting_of_ok (setContext_run c)
  reading _ hf := lasting_surroundings_bind fun w _ => hf w
  readClock := lasting_surroundings_bind fun w _ => lasting_of_ok fun _ _ => rfl
  pause _ := Lasting.bind (lasting_of_ok get_run) fun _ => lasting_waitTo _
  giveWay := by
    refine Lasting.bind (lasting_of_ok get_run) fun s => lasting_surroundings_bind fun w _ => ?_
    split
    · exact lasting_of_ok (pure_run _)
    · exact lasting_throw (by simp)
  send := lasting_send

end Lasting

end Assay.Exec
