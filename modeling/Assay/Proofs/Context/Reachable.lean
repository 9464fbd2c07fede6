/- digest: What holds of every namespace that operations and steps can lead to: it has the
   environment that it was made with, the two roots that it began with, and one tree under each
   name. -/

import Assay.Proofs.Exec.Invariant

set_option autoImplicit false
set_option relaxedAutoImplicit false

namespace Assay

namespace Context

/-- One operation on a namespace. -/
inductive Operation
  | setRoot (name : String) (value : Json)
  | removeRoot (name : String)
  | set (place : Path) (value : Json)
  | remove (place : Path)
  | copy
  | isolate
  | logLine (line : String)
  | takeLog

/-- What an operation leaves. One that is refused leaves the namespace as it is. -/
def Operation.apply (c : Context) : Operation → Context
  | .setRoot name v => match c.setRoot name v with
    | .ok d => d
    | .error _ => c
  | .removeRoot name => (c.removeRoot name).2
  | .set p v => match c.set p v with
    | .ok (_, d) => d
    | .error _ => c
  | .remove p => match c.remove? p with
    | some (_, d) => d
    | none => c
  | .copy => c.copy
  | .isolate => c.isolated
  | .logLine line => c.logLine line
  | .takeLog => c.takeLog.2

end Context

/-- Foreign work does nothing to a namespace but operations on it. -/
def ForeignWork.Operates (work : ForeignWork) : Prop :=
  ∀ (scope : Scope) (c : Context), work scope = .ok c →
    ∃ operations : List Context.Operation, c = operations.foldl Context.Operation.apply scope.context

namespace Context

/-- The namespaces that come from a new one by operations and by running steps, whether these
complete or stop on the way. -/
inductive Reachable (env : Json) : Context → Prop
  | new : Reachable env (withEnv env)
  | operation {c : Context} (h : Reachable env c) (o : Operation) : Reachable env (o.apply c)
  | steps {s : RunState} (h : Reachable env s.context) (w : Surroundings) (steps : List Step)
      (hforeign : ∀ step ∈ steps, step.ForeignAll ForeignWork.Operates) :
      Reachable env (Step.runAll steps w s).2.context

/-- A namespace as it has to be: well formed, with the environment that it was made with, and with a
snapshot that holds the environment first and then each root once. -/
structure Intact (env : Json) (c : Context) : Prop where
  wellFormed : c.WellFormed
  kept : c.env = env
  snapshot : c.snapshot = .object ((envRoot, env) :: c.roots)
  once : (Members.names ((envRoot, env) :: c.roots)).Nodup

variable {env : Json} {c : Context}

private theorem WellFormed.intact (h : c.WellFormed) (henv : c.env = env) : c.Intact env where
  wellFormed := h
  kept := henv
  snapshot := henv ▸ h.snapshot_eq
  once := List.nodup_cons.mpr ⟨h.env, h.nodup⟩

private theorem stable_intact (env : Json) : Stable (Intact env) where
  log _ _ h := (stable_wellFormed.log _ _ h.wellFormed).intact h.kept
  putRoot _ _ v hname h := (h.wellFormed.putRoot hname v).intact h.kept

namespace Intact

private theorem removeRoot (h : c.Intact env) (name : String) :
    (c.removeRoot name).2.Intact env := by
  unfold Context.removeRoot
  split
  · rename_i required
    have differs : name ≠ envRoot := by
      rcases required with rfl | rfl
      · exact globalsRoot_ne_envRoot
      · exact ctxRoot_ne_envRoot
    exact (stable_intact env).putRoot c name _ (Or.inl differs) h
  · rename_i optional
    obtain ⟨notGlobals, notCtx⟩ := not_or.mp optional
    have fewer := Members.names_erase_sublist name c.roots
    refine WellFormed.intact ⟨?_, ?_, ?_, ?_⟩ h.kept
    · exact (Members.mem_names_erase_of_ne (Ne.symm notGlobals)).mpr h.wellFormed.globals
    · exact (Members.mem_names_erase_of_ne (Ne.symm notCtx)).mpr h.wellFormed.ctx
    · exact fun inside => h.wellFormed.env (fewer.subset inside)
    · exact Members.nodup_erase h.wellFormed.nodup name

private theorem apply (h : c.Intact env) (o : Operation) : (o.apply c).Intact env := by
  have log (lines : List String) := (stable_intact env).log c lines h
  cases o with
  | setRoot name v =>
    simp only [Operation.apply]
    by_cases hname : name = envRoot
    · simpa [Context.setRoot, hname] using h
    · rw [setRoot_of_ne hname]
      exact (stable_intact env).putRoot c name v (Or.inl hname) h
  | removeRoot name => exact h.removeRoot name
  | set p v =>
    simp only [Operation.apply]
    split
    · rename_i change d hset
      obtain ⟨hroot, -, rfl⟩ := set_eq_ok hset
      exact (stable_intact env).putRoot c p.root _ (Or.inl hroot) h
    · exact h
  | remove p =>
    simp only [Operation.apply]
    split
    · rename_i old d hremove
      obtain ⟨present, tree, rfl⟩ := remove?_eq_some hremove
      exact (stable_intact env).putRoot c p.root tree (Or.inr present) h
    · exact h
  | copy => exact log []
  | isolate =>
    have inherited := (wellFormed_withEnv c.env).of_rootNames_eq (d := c.isolated)
      (by rw [isolated_rootNames, rootNames_withEnv])
    exact inherited.intact (c.isolated_env.trans h.kept)
  | logLine line => exact log (c.log ++ [line])
  | takeLog => exact log []

private theorem foldl_apply (h : c.Intact env) (operations : List Operation) :
    (operations.foldl Operation.apply c).Intact env := by
  induction operations generalizing c with
  | nil => exact h
  | cons o rest ih => exact ih (h.apply o)

end Intact

private theorem keeps_of_operates {work : ForeignWork} (h : work.Operates) :
    work.Keeps (Intact env) := by
  intro scope c hwork hscope
  obtain ⟨operations, rfl⟩ := h scope c hwork
  exact hscope.foldl_apply operations

/-- Every namespace of a run is intact, whatever was done to it. -/
theorem Reachable.stays_intact (h : Reachable env c) : c.Intact env := by
  induction h with
  | new => exact (wellFormed_withEnv env).intact rfl
  | operation _ o ih => exact ih.apply o
  | steps _ w steps hforeign ih =>
    have each : ∀ step ∈ steps, Exec.Keeps (Intact env) step.run := fun step hstep =>
      Step.keeps_run (stable_intact env) ((hforeign step hstep).mono fun _ => keeps_of_operates)
    exact (Exec.looping_keeps (stable_intact env)).inTurn each w _ ih

/-- Steps that write to several roots, one of them as a whole, and then fault: the index of the loop
cannot be written to the environment. -/
def trespassing : List Step :=
  [.check (.saving [("$.mine.list[1]", .nat 1), ("$.globals", .null), ("$.ctx.seen", .string "yes")]),
    .each (.saving []) (.array [.nat 1, .nat 2]) "$.item" "$.env.index" []]

/-- A run that starts in a new namespace with a variable of the environment. -/
def hosted : RunState :=
  { RunState.initial with context := withEnv (.object [("host", .string "h")]) }

/-- The namespace that these steps leave, once its root `ctx` was removed and it was copied. -/
def trespassed : Context :=
  let left := (Step.runAll trespassing (.still .empty) hosted).2.context
  [Operation.removeRoot ctxRoot, .copy].foldl Operation.apply left

/-- It is intact, although the steps fault. -/
theorem trespassed_stays_intact :
    Exec.yields (Step.runAll trespassing) (fun _ => true) (.still .empty) hosted = false ∧
      trespassed.rootNames = [globalsRoot, ctxRoot, "mine", "item"] ∧
      trespassed.Intact (.object [("host", .string "h")]) := by
  refine ⟨by decide +kernel, by decide +kernel, Reachable.stays_intact ?_⟩
  have started : Reachable (.object [("host", .string "h")]) hosted.context := .new
  have ran := started.steps (s := hosted) (.still .empty) trespassing ?_
  · exact (ran.operation (.removeRoot ctxRoot)).operation .copy
  · intro step hstep
    simp only [trespassing, List.mem_cons, List.not_mem_nil, or_false] at hstep
    rcases hstep with rfl | rfl
    · trivial
    · trivial

end Context

end Assay
