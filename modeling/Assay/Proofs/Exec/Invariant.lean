/- digest: Invariants of runs: what holds of the variables whatever single operations do to them,
   holds after every computation, however it ends. -/

import Assay.Proofs.Exec.Pervasive

set_option autoImplicit false
set_option relaxedAutoImplicit false

namespace Assay

/-- A property of namespaces that does not look at their log. -/
def LogBlind (I : Context → Prop) : Prop :=
  ∀ (c : Context) (lines : List String), I c → I { c with log := lines }

/-- A property of namespaces that survives every single operation on one: logging, and replacing a
root that is not the environment. -/
structure Stable (I : Context → Prop) : Prop where
  log : LogBlind I
  putRoot : ∀ (c : Context) (name : String) (v : Json),
    name ≠ Context.envRoot ∨ name ∈ c.rootNames → I c → I (c.putRoot name v)

namespace Context

theorem stable_wellFormed : Stable WellFormed where
  log _ _ h := h.of_rootNames_eq rfl
  putRoot _ _ v hname h := h.putRoot hname v

end Context

namespace Exec

/-- Every run of a computation from variables with a property ends in variables with that property,
also where it stops before it is done. -/
def Keeps {α : Type} (I : Context → Prop) (x : Exec α) : Prop :=
  ∀ (w : Surroundings) (s : RunState), I s.context → I (x w s).2.context

variable {α β : Type} {I : Context → Prop}

theorem Keeps.of_run {x : Exec α} (hx : Keeps I x) {w : Surroundings} {s t : RunState}
    {r : Except Stop α} (hs : I s.context) (h : x w s = (r, t)) : I t.context := by
  have kept := hx w s hs
  rwa [h] at kept

theorem keeps_pure (a : α) : Keeps I (pure a) := fun _ _ hs => hs

theorem keeps_throw (e : Stop) : Keeps I (throw e : Exec α) := fun _ _ hs => hs

private theorem keeps_fault (f : Fault) : Keeps I (fault f : Exec α) := fun _ _ hs => hs

theorem keeps_surroundings : Keeps I surroundings := fun _ _ hs => hs

private theorem keeps_get : Keeps I (get : Exec RunState) := fun _ _ hs => hs

theorem keeps_context : Keeps I context := fun _ _ hs => hs

theorem Keeps.bind {x : Exec α} {f : α → Exec β} (hx : Keeps I x) (hf : ∀ a, Keeps I (f a)) :
    Keeps I (x >>= f) := by
  intro w s hs
  rcases h : x w s with ⟨(e | a), u⟩
  · rw [bind_of_error h]
    exact hx.of_run hs h
  · rw [bind_of_ok h]
    exact hf a w u (hx.of_run hs h)

private theorem keeps_context_bind {f : Context → Exec α}
    (hf : ∀ w s, I s.context → I (f s.context w s).2.context) : Keeps I (context >>= f) := hf

private theorem Keeps.attempt {x : Exec α} (hx : Keeps I x) : Keeps I (attempt x) := by
  intro w s hs
  rcases h : x w s with ⟨(e | a), u⟩
  · have kept := hx.of_run hs h
    cases e with
    | fault f => rwa [attempt_of_fault h]
    | breakdown _ | cancelled _ | exhausted =>
      rwa [attempt_of_stop h (by intro f equal; cases equal)]
  · rw [attempt_of_ok h]
    exact hx.of_run hs h

theorem keeps_apart (c : Context) (x : Exec α) : Keeps I (apart c x) := by
  intro w s hs
  rw [apart_context]
  exact hs

private theorem Keeps.underDeadline {x : Exec α} (hx : Keeps I x) (deadline : Nat) :
    Keeps I (underDeadline deadline x) := by
  intro w s hs
  have kept := hx { w with deadlines := deadline :: w.deadlines } s hs
  rcases h : x { w with deadlines := deadline :: w.deadlines } s with ⟨(e | a), u⟩
  · rw [h] at kept
    cases e with
    | fault _ | breakdown _ | exhausted =>
      simp only [Exec.underDeadline, h]
      exact kept
    | cancelled loop =>
      cases loop with
      | zero | succ _ =>
        simp only [Exec.underDeadline, h]
        exact kept
  · rw [h] at kept
    simp only [Exec.underDeadline, h]
    exact kept

private theorem keeps_passTo (time : Nat) : Keeps I (passTo time) := fun _ _ hs => hs

private theorem keeps_readClock : Keeps I readClock := fun _ _ hs => hs

private theorem keeps_waitTo (time : Nat) : Keeps I (waitTo time) := by
  refine keeps_surroundings.bind fun w => ?_
  split
  · exact keeps_passTo _
  · exact (keeps_passTo _).bind fun _ => keeps_throw _

private theorem keeps_pause (milliseconds : Nat) : Keeps I (pause milliseconds) :=
  keeps_get.bind fun s => keeps_waitTo (firing s.now milliseconds)

private theorem keeps_giveWay : Keeps I giveWay := by
  refine keeps_get.bind fun s => keeps_surroundings.bind fun w => ?_
  split
  · exact keeps_pure _
  · exact keeps_throw _

theorem keeps_takeLog (hI : LogBlind I) : Keeps I takeLog := fun _ s hs => hI s.context [] hs

theorem keeps_resolving (hI : LogBlind I) (r : Scope → Token.Resolution α) :
    Keeps I (resolving r) := by
  intro w s hs
  rcases h : r (scope w s) with e | ⟨a, lines⟩
  · rw [resolving_of_error h]
    exact hs
  · rw [resolving_of_ok h]
    exact hI s.context _ hs

theorem keeps_send (request : Http.Request) : Keeps I (send request) := by
  rw [send_eq]
  refine keeps_surroundings.bind fun w => keeps_get.bind fun s => ?_
  refine Keeps.bind (fun _ _ hs => hs) fun _ => ?_
  refine receive_induction keeps_pure keeps_fault (fun x delay hx => ?_) _ _ _
  exact keeps_get.bind fun t => (keeps_waitTo _).bind fun _ => hx

theorem quiet_keeps (hI : LogBlind I) : Quiet fun _ x => Keeps I x where
  pure := keeps_pure
  fault := keeps_fault
  bind := Keeps.bind
  attempt := Keeps.attempt
  reading _ := keeps_surroundings.bind
  resolving _ := keeps_resolving hI _
  readClock := keeps_readClock
  pause := keeps_pause
  giveWay := keeps_giveWay
  send := keeps_send

private theorem keeps_write (hI : Stable I) (p : Path) (v : Json) : Keeps I (write p v) := by
  intro w s hs
  rcases h : s.context.set p v with e | ⟨change, c⟩
  · rw [write_of_error h]
    exact hs
  · rw [write_of_ok h]
    obtain ⟨hroot, -, rfl⟩ := Context.set_eq_ok h
    exact hI.putRoot _ _ _ (Or.inl hroot) hs

private theorem keeps_writeRoot (hI : Stable I) (name : String) (v : Json) :
    Keeps I (writeRoot name v) := by
  intro w s hs
  by_cases h : name = Context.envRoot
  · simp only [writeRoot, bind_of_ok (context_run w s), Context.setRoot, if_pos h, fault_run]
    exact hs
  · rw [writeRoot_run h]
    exact hI.putRoot _ _ _ (Or.inl h) hs

private theorem keeps_restore (hI : Stable I) (p : Path) (old : Option Json) :
    Keeps I (Each.restore p old) := by
  cases old with
  | some v => exact (keeps_write hI p v).bind fun _ => keeps_pure _
  | none =>
    refine keeps_context_bind fun w s hs => ?_
    rcases h : s.context.remove? p with _ | ⟨v, c⟩
    · exact hs
    · obtain ⟨present, tree, rfl⟩ := Context.remove?_eq_some h
      exact hI.putRoot _ _ _ (Or.inr present) hs

theorem looping_keeps (hI : Stable I) : Looping fun _ x => Keeps I x where
  toQuiet := quiet_keeps hI.log
  write := keeps_write hI
  writeRoot := keeps_writeRoot hI
  recalling _ := keeps_context.bind
  restore := keeps_restore hI
  exhausted := keeps_throw _
  underDeadline deadline hx := hx.underDeadline deadline

private theorem templated_keeps (hI : Stable I) : Templated fun _ x => Keeps I x where
  toWriting := (looping_keeps hI).toWriting
  apart c _ := keeps_apart c _
  context := keeps_context
  addLines lines hx w s hs := hx w { s with context := s.context.logLines lines } (hI.log _ _ hs)
  takeLog := keeps_takeLog hI.log
  consulting _ := keeps_surroundings.bind

end Exec

open Exec

variable {I : Context → Prop}

def ForeignWork.Keeps (I : Context → Prop) (work : ForeignWork) : Prop :=
  ∀ (scope : Scope) (c : Context), work scope = .ok c → I scope.context → I c

namespace Step

mutual

/-- Whether all foreign work in a step has a property. -/
def ForeignAll (P : ForeignWork → Prop) : Step → Prop
  | .foreign _ work => P work
  | .each _ _ _ _ steps => ForeignAllOf P steps
  | .loop _ _ _ steps => ForeignAllOf P steps
  | .wait _ _ => True
  | .check _ => True
  | .request _ _ => True
  | .use _ _ _ => True

/-- Whether all foreign work in steps has a property. -/
def ForeignAllOf (P : ForeignWork → Prop) : List Step → Prop
  | [] => True
  | step :: rest => ForeignAll P step ∧ ForeignAllOf P rest

end

theorem foreignAllOf_iff {P : ForeignWork → Prop} {steps : List Step} :
    ForeignAllOf P steps ↔ ∀ step ∈ steps, ForeignAll P step := by
  induction steps with
  | nil => simp [ForeignAllOf]
  | cons step rest ih => simp [ForeignAllOf, ih]

mutual

theorem ForeignAll.mono {P Q : ForeignWork → Prop} (h : ∀ work, P work → Q work) :
    ∀ {step : Step}, step.ForeignAll P → step.ForeignAll Q
  | .foreign _ work, hstep => h work hstep
  | .each _ _ _ _ _, hstep => ForeignAllOf.mono h hstep
  | .loop _ _ _ _, hstep => ForeignAllOf.mono h hstep
  | .wait _ _, _ => trivial
  | .check _, _ => trivial
  | .request _ _, _ => trivial
  | .use _ _ _, _ => trivial

theorem ForeignAllOf.mono {P Q : ForeignWork → Prop} (h : ∀ work, P work → Q work) :
    ∀ {steps : List Step}, ForeignAllOf P steps → ForeignAllOf Q steps
  | [], _ => trivial
  | _ :: _, hsteps => ⟨ForeignAll.mono h hsteps.1, ForeignAllOf.mono h hsteps.2⟩

end

private theorem keeps_work (hI : Stable I) {body : List Step → Exec (List StepResult)} {step : Step}
    (hforeign : step.ForeignAll (ForeignWork.Keeps I))
    (hbody : ∀ steps, (∀ inner ∈ steps, inner.ForeignAll (ForeignWork.Keeps I)) →
      Keeps I (body steps)) : Keeps I (step.work body) := by
  have looping := looping_keeps hI
  cases step with
  | wait frame duration => exact looping.wait body frame duration
  | check frame => exact keeps_pure _
  | each frame items itemKey indexKey steps =>
    exact looping.each (hbody steps (foreignAllOf_iff.mp hforeign)) _ _ _
  | loop frame condition timeout steps =>
    exact looping.loop (hbody steps (foreignAllOf_iff.mp hforeign)) _ _
  | request frame call => exact looping.call call
  -- A template may do to its own variables what it likes: the caller's see its outputs alone.
  | use frame template arguments =>
    exact (templated_keeps hI).use (fun steps c text => keeps_apart c _) _ _
  | foreign frame work =>
    refine keeps_context_bind fun w s hs => ?_
    rw [bind_of_ok (surroundings_run w s)]
    rcases h : work ⟨s.context, w.processVariable⟩ with text | c
    · exact hs
    · exact hforeign _ c h hs

private theorem keeps_runWithin (hI : Stable I) (levels : Nat) {step : Step}
    (hforeign : step.ForeignAll (ForeignWork.Keeps I)) : Keeps I (runWithin levels step) := by
  induction levels generalizing step with
  | zero => exact keeps_throw _
  | succ levels ih =>
    have looping := looping_keeps hI
    refine looping.bind (looping.naming (keeps_work hI hforeign fun steps hsteps => ?_) _) fun o => ?_
    · exact looping.inTurn fun inner hinner => ih (hsteps inner hinner)
    · exact (templated_keeps hI).complete _ o

theorem keeps_run (hI : Stable I) {step : Step} (hforeign : step.ForeignAll (ForeignWork.Keeps I)) :
    Keeps I step.run :=
  keeps_surroundings.bind fun w => keeps_runWithin hI w.depth hforeign

end Step

namespace TestCase

/-- One run of a case keeps a property that single operations keep, also where a step faults. -/
theorem keeps_runOnce (hI : Stable I) {c : TestCase}
    (hforeign : ∀ step ∈ c.steps, step.ForeignAll (ForeignWork.Keeps I)) (dataset : Option String) :
    Keeps I (c.runOnce dataset) :=
  (templated_keeps hI).runOnce (fun step hstep => Step.keeps_run hI (hforeign step hstep)) dataset

end TestCase

end Assay
