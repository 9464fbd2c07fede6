/- digest: The journal of a run: the same run where all namespaces log into one list from which
   nobody takes. Single operations do there what they always do, and add the same lines. -/

import Assay.Proofs.Exec.Closure
import Assay.Proofs.Exec.Invariant

set_option autoImplicit false
set_option relaxedAutoImplicit false

namespace Assay

def RunState.withLog (s : RunState) (lines : List String) : RunState :=
  { s with context := { s.context with log := lines } }

namespace RunState

variable {s : RunState} {l m : List String}

end RunState

namespace Context

variable {c d : Context} {p : Path} {v : Json} {change : Change}

theorem set_of_log (h : c.set p v = .ok (change, d)) (l : List String) :
    { c with log := l }.set p v = .ok (change, { d with log := l }) ∧ d.log = c.log := by
  unfold set at h ⊢
  split at h
  · cases h
  · split at h
    · cases h
    · rename_i hroot hindex
      cases h
      rw [if_neg hroot, if_neg hindex]
      exact ⟨rfl, rfl⟩

private theorem remove?_of_log (c : Context) (p : Path) (l : List String) :
    { c with log := l }.remove? p = (c.remove? p).map fun r => (r.1, { r.2 with log := l }) := by
  simp only [remove?, Option.map_map]
  rfl

private theorem log_of_remove? (h : c.remove? p = some (v, d)) : d.log = c.log := by
  obtain ⟨-, tree, rfl⟩ := remove?_eq_some h
  rfl

end Context

namespace Exec

variable {α β : Type} {w : Surroundings}

/-- From a state, one computation is given up, or another one with any other log ends as it does and
adds the lines that the first one added. -/
def FollowsFrom (w : Surroundings) (s : RunState) (x y : Exec α) : Prop :=
  ∀ r t, x w s = (r, t) → r ≠ .error .exhausted → ∃ logged, t.context.log = s.context.log ++ logged ∧
    ∀ l, y w (s.withLog l) = (r, t.withLog (l ++ logged))

/-- A computation adds lines to the log and never looks at those that are there. -/
def Appends {α : Type} (x : Exec α) : Prop := ∀ w s, FollowsFrom w s x x

section FollowsFrom

variable {x y : Exec α} {f g : α → Exec β} {s : RunState}

private theorem followsFrom_pure (a : α) : FollowsFrom w s (pure a) (pure a) := by
  intro r t h _
  cases h
  exact ⟨[], by simp, fun l => by rw [List.append_nil]; rfl⟩

private theorem followsFrom_throw (e : Stop) : FollowsFrom w s (throw e : Exec α) (throw e) := by
  intro r t h _
  cases h
  exact ⟨[], by simp, fun l => by rw [List.append_nil]; rfl⟩

theorem followsFrom_exhausted : FollowsFrom w s (throw .exhausted) y := by
  intro r t h hr
  cases h
  exact absurd rfl hr

theorem FollowsFrom.bind (h : FollowsFrom w s x y)
    (hf : ∀ a u, x w s = (.ok a, u) → FollowsFrom w u (f a) (g a)) :
    FollowsFrom w s (x >>= f) (y >>= g) := by
  intro r t hrun hr
  rcases hx : x w s with ⟨(e | a), u⟩
  · rw [bind_of_error hx] at hrun
    cases hrun
    obtain ⟨logged, grown, hy⟩ := h _ _ hx (by simpa using hr)
    exact ⟨logged, grown, fun l => bind_of_error (hy l)⟩
  · rw [bind_of_ok hx] at hrun
    obtain ⟨first, grown, hy⟩ := h _ u hx (by simp)
    obtain ⟨second, more, hg⟩ := hf a u hx r t hrun hr
    refine ⟨first ++ second, by rw [more, grown, List.append_assoc], fun l => ?_⟩
    have next := hg (l ++ first)
    rw [List.append_assoc] at next
    rw [bind_of_ok (hy l), next]

theorem FollowsFrom.attempt (h : FollowsFrom w s x y) : FollowsFrom w s (attempt x)
    (attempt y) := by
  intro r t hrun hr
  rcases hx : x w s with ⟨(e | a), u⟩
  · cases e with
    | fault f =>
      rw [attempt_of_fault hx] at hrun
      cases hrun
      obtain ⟨logged, grown, hy⟩ := h _ _ hx (by simp)
      exact ⟨logged, grown, fun l => attempt_of_fault (hy l)⟩
    | breakdown _ | cancelled _ =>
      rw [attempt_of_stop hx (by simp)] at hrun
      cases hrun
      obtain ⟨logged, grown, hy⟩ := h _ _ hx (by simp)
      exact ⟨logged, grown, fun l => attempt_of_stop (hy l) (by simp)⟩
    | exhausted =>
      rw [attempt_of_stop hx (by simp)] at hrun
      cases hrun
      exact absurd rfl hr
  · rw [attempt_of_ok hx] at hrun
    cases hrun
    obtain ⟨logged, grown, hy⟩ := h _ _ hx (by simp)
    exact ⟨logged, grown, fun l => attempt_of_ok (hy l)⟩

private theorem followsFrom_get_bind {f g : RunState → Exec α} (h : FollowsFrom w s (f s) (g s))
    (hread : ∀ s l, g (s.withLog l) = g s) : FollowsFrom w s (get >>= f) (get >>= g) := by
  intro r t hrun hr
  obtain ⟨logged, grown, hy⟩ := h r t hrun hr
  refine ⟨logged, grown, fun l => ?_⟩
  rw [bind_of_ok (get_run w (s.withLog l)), hread]
  exact hy l

theorem followsFrom_context_bind {f g : Context → Exec α}
    (h : FollowsFrom w s (f s.context) (g s.context))
    (hread : ∀ (c : Context) l, g { c with log := l } = g c) :
    FollowsFrom w s (context >>= f) (context >>= g) := by
  intro r t hrun hr
  obtain ⟨logged, grown, hy⟩ := h r t hrun hr
  refine ⟨logged, grown, fun l => ?_⟩
  rw [bind_of_ok (context_run w (s.withLog l))]
  exact (congrFun (congrFun (hread s.context l) w) _).trans (hy l)

end FollowsFrom

theorem appends_pure (a : α) : Appends (pure a) := fun _ _ => followsFrom_pure a

theorem appends_throw (e : Stop) : Appends (throw e : Exec α) := fun _ _ => followsFrom_throw e

theorem Appends.bind {x : Exec α} {f : α → Exec β} (hx : Appends x) (hf : ∀ a, Appends (f a)) :
    Appends (x >>= f) := fun w s => (hx w s).bind fun a u _ => hf a w u

private theorem appends_surroundings_bind {f : Surroundings → Exec α} (h : ∀ w, Appends (f w)) :
    Appends (surroundings >>= f) := fun w s => h w w s

private theorem appends_get_bind {f : RunState → Exec α} (h : ∀ s, Appends (f s))
    (hread : ∀ s l, f (s.withLog l) = f s) : Appends (get >>= f) :=
  fun w s => followsFrom_get_bind (h s w s) hread

private theorem appends_modify {f : RunState → RunState}
    (hlog : ∀ s, (f s).context.log = s.context.log)
    (h : ∀ s l, f (s.withLog l) = (f s).withLog l) : Appends (modify f : Exec PUnit) := by
  intro w s r t hrun _
  rw [modify_run] at hrun
  cases hrun
  exact ⟨[], by rw [hlog, List.append_nil], fun l => by rw [modify_run, h, List.append_nil]⟩

theorem appends_resolving {r : Scope → Token.Resolution α} (h : Token.IgnoresLog r) :
    Appends (resolving r) := by
  intro w s e t hrun _
  have same (l : List String) : r (scope w (s.withLog l)) = r (scope w s) :=
    h s.context l w.processVariable
  rcases hr : r (scope w s) with refusal | ⟨a, lines⟩
  · rw [resolving_of_error hr] at hrun
    cases hrun
    refine ⟨[], by simp, fun l => ?_⟩
    rw [resolving_of_error ((same l).trans hr), List.append_nil]
  · rw [resolving_of_ok hr] at hrun
    cases hrun
    exact ⟨lines, rfl, fun l => resolving_of_ok ((same l).trans hr)⟩

theorem appends_write (p : Path) (v : Json) : Appends (write p v) := by
  intro w s r t hrun _
  rcases h : s.context.set p v with e | ⟨change, c⟩
  · rw [write_of_error h] at hrun
    cases hrun
    refine ⟨[], by simp, fun l => ?_⟩
    rw [write_of_error ((Context.set_eq_error_congr _ (s.withLog l).context v v).mp h), List.append_nil]
  · rw [write_of_ok h] at hrun
    cases hrun
    refine ⟨[], by rw [List.append_nil, (Context.set_of_log h []).2], fun l => ?_⟩
    have other : (s.withLog l).context.set p v = .ok (change, { c with log := l }) :=
      (Context.set_of_log h l).1
    rw [write_of_ok other, List.append_nil]
    rfl

theorem appends_writeRoot (name : String) (v : Json) : Appends (writeRoot name v) := by
  intro w s r t hrun _
  by_cases h : name = Context.envRoot
  · simp only [writeRoot, bind_of_ok (context_run w s), Context.setRoot, if_pos h, fault_run] at hrun
    cases hrun
    refine ⟨[], by simp, fun l => ?_⟩
    simp only [writeRoot, bind_of_ok (context_run w (s.withLog l)), Context.setRoot, if_pos h,
      fault_run, List.append_nil]
  · rw [writeRoot_run h] at hrun
    cases hrun
    refine ⟨[], by simp, fun l => ?_⟩
    rw [writeRoot_run h, List.append_nil]
    rfl

private theorem appends_waitTo (time : Nat) : Appends (waitTo time) := by
  refine appends_surroundings_bind fun w => ?_
  have pass (time : Nat) : Appends (passTo time) := appends_modify (fun _ => rfl) fun _ _ => rfl
  split
  · exact pass time
  · exact (pass _).bind fun _ => appends_throw _

theorem appends_send (request : Http.Request) : Appends (send request) := by
  rw [send_eq]
  refine appends_surroundings_bind fun w => appends_get_bind (fun s => ?_) fun _ _ => rfl
  refine Appends.bind (appends_modify (fun _ => rfl) fun _ _ => rfl) fun _ => ?_
  refine receive_induction appends_pure (fun _ => appends_throw _) (fun x delay hx => ?_) _ _ _
  exact appends_get_bind (fun t => Appends.bind (appends_waitTo _) fun _ => hx) fun _ _ => rfl

private theorem restore_of_absent {p : Path} {w : Surroundings} {s : RunState}
    (h : s.context.remove? p = none) : Each.restore p none w s = (.ok (), s) := by
  simp only [Each.restore, bind_of_ok (context_run w s), h, pure_run]

private theorem restore_of_present {p : Path} {w : Surroundings} {s : RunState} {v : Json}
    {c : Context}
    (h : s.context.remove? p = some (v, c)) :
    Each.restore p none w s = (.ok (), { s with context := c }) := by
  simp only [Each.restore, bind_of_ok (context_run w s), h, setContext_run]

theorem appends_restore (p : Path) (old : Option Json) : Appends (Each.restore p old) := by
  cases old with
  | some v => exact Appends.bind (appends_write p v) fun _ => appends_pure _
  | none =>
    intro w s r t hrun _
    have other (l : List String) := Context.remove?_of_log s.context p l
    rcases h : s.context.remove? p with _ | ⟨v, c⟩
    · rw [restore_of_absent h] at hrun
      cases hrun
      refine ⟨[], by simp, fun l => ?_⟩
      have absent : (s.withLog l).context.remove? p = none := by rw [RunState.withLog, other, h]; rfl
      rw [restore_of_absent absent, List.append_nil]
    · rw [restore_of_present h] at hrun
      cases hrun
      refine ⟨[], by rw [List.append_nil, Context.log_of_remove? h], fun l => ?_⟩
      have present : (s.withLog l).context.remove? p = some (v, { c with log := l }) := by
        rw [RunState.withLog, other, h]
        rfl
      rw [restore_of_present present, List.append_nil]
      rfl

/-- Whatever is built from single operations on one's own variables only adds to the log. -/
theorem working_appends : Working fun _ x => Appends x where
  pure := appends_pure
  fault _ := appends_throw _
  bind := Appends.bind
  attempt hx := fun w s => (hx w s).attempt
  reading _ := appends_surroundings_bind
  resolving := appends_resolving
  readClock := by
    refine appends_surroundings_bind fun w => ?_
    intro w' s r t hrun _
    cases hrun
    exact ⟨[], by simp, fun l => by rw [List.append_nil]; rfl⟩
  pause milliseconds := appends_get_bind (fun _ => appends_waitTo _) fun _ _ => rfl
  giveWay := by
    refine appends_get_bind (fun s => appends_surroundings_bind fun w => ?_) fun _ _ => rfl
    split
    · exact appends_pure _
    · exact appends_throw _
  send := appends_send
  write := appends_write
  writeRoot := appends_writeRoot
  recalling hread hf := fun w s => followsFrom_context_bind (hf s.context w s) hread
  restore := appends_restore

end Exec

namespace Journal

open Exec

variable {α : Type}

/-- Runs a computation on other variables, which log into one's own log. -/
def sharing (c : Context) (x : Exec α) : Exec (α × Context) := fun w s =>
  match x w { s with context := { c with log := s.context.log } } with
  | (.ok a, t) =>
    (.ok (a, t.context.copy), { t with context := { s.context with log := t.context.log } })
  | (.error e, t) => (.error e, { t with context := { s.context with log := t.context.log } })

/-- Delivers the outputs of a template as ever, but from variables that share the log. -/
def deliver (inside : Context) (outputs : Members Json) (changes : Changes) :
    Members Json → Exec (Context × Members Json × Changes)
  | [] => pure (inside, outputs, changes)
  | (target, v) :: rest => do
    let (v, inside) ← sharing inside (resolveValue v)
    let p ← readPath target
    let change ← write p v
    deliver inside (Members.put target v outputs) (changes.record p change) rest

/-- Runs a template as ever, but in variables that share the log. -/
def expand (name : String) (t : Template) (arguments : Members Json)
    (body : List Step → Exec (List StepResult)) : Exec Outcome := do
  let parameters ← ofDefinition (t.bind arguments)
  let inside ← Use.enter parameters
  let (inner, inside) ← sharing inside (naming ("template '" ++ name ++ "'") (body t.steps))
  let (_, outputs, changes) ← deliver inside [] .none t.output
  writeRoot Context.thisRoot (.object outputs)
  return { Outcome.passed.withDetails [("template", .string name), ("outputs", .object outputs)] with
    changes := changes }.withInner inner

/-- Runs the template of a name as ever, but in variables that share the log. -/
def use (template : String) (arguments : Members Json)
    (body : List Step → Exec (List StepResult)) : Exec Outcome := do
  let name ← resolveText template
  let t ← ofDefinition ((← surroundings).templates.get name)
  let arguments ← resolving fun scope => Token.expandMembers (Token.resolve scope) arguments
  expand name t arguments body

/-- The work of a step; a template shares the log of its caller. -/
def work (body : List Step → Exec (List StepResult)) : Step → Exec Outcome
  | .use _ template arguments => use template arguments body
  | step => step.work body

/-- Completes a step and gives the lines that it takes back to the log. -/
def complete (frame : StepFrame) (outcome : Outcome) : Exec StepResult := do
  let r ← Step.complete frame outcome
  setContext ((← context).logLines r.logs)
  return { r with logs := [] }

def runWithin : Nat → Step → Exec StepResult
  | 0, _ => throw .exhausted
  | levels + 1, step => do
    let outcome ← naming (step.frame.kind ++ " step '" ++ step.frame.label ++ "' failed")
      (work (inTurn (runWithin levels)) step)
    complete step.frame outcome

/-- Runs a step as ever, but with one log for its own and all other variables, in which every line
stays. -/
def run (step : Step) : Exec StepResult := do
  runWithin (← surroundings).depth step

end Journal

/-- Foreign work that adds lines to the log and never looks at those that are there. -/
def ForeignWork.Appends (work : ForeignWork) : Prop := Exec.Appends (Step.runForeign work)

end Assay
