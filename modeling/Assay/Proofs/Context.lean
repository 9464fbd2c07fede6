/- digest: Laws of the variable namespace: which roots an operation changes, and what every
   namespace keeps whatever is done to it. -/

import Assay.Context.Basic
import Assay.Proofs.Members

set_option autoImplicit false
set_option relaxedAutoImplicit false

namespace Assay.Context

variable {c d : Context} {name other : String} {v : Json}

/-- What every namespace keeps: the two roots that it begins with, none under the name of the
environment, and no name twice. -/
structure WellFormed (c : Context) : Prop where
  globals : globalsRoot ∈ c.rootNames
  ctx : ctxRoot ∈ c.rootNames
  env : envRoot ∉ c.rootNames
  nodup : c.rootNames.Nodup

@[simp] theorem globalsRoot_ne_envRoot : globalsRoot ≠ envRoot := by decide
@[simp] theorem ctxRoot_ne_envRoot : ctxRoot ≠ envRoot := by decide
@[simp] theorem caseRoot_ne_envRoot : caseRoot ≠ envRoot := by decide
@[simp] theorem thisRoot_ne_envRoot : thisRoot ≠ envRoot := by decide
@[simp] theorem ctxRoot_ne_globalsRoot : ctxRoot ≠ globalsRoot := by decide
@[simp] theorem caseRoot_ne_globalsRoot : caseRoot ≠ globalsRoot := by decide

theorem root?_of_ne (h : name ≠ envRoot) : c.root? name = Members.get? name c.roots := by
  simp [root?, h]

private theorem root?_isSome_iff (h : name ≠ envRoot) :
    (c.root? name).isSome = true ↔ name ∈ c.rootNames := by
  rw [root?_of_ne h]
  exact Members.get?_isSome_iff name c.roots

theorem root?_congr (henv : d.env = c.env) (hroots : d.roots = c.roots) (name : String) :
    d.root? name = c.root? name := by
  simp [root?, henv, hroots]

theorem get?_congr {p : Path} (h : d.root? p.root = c.root? p.root) : d.get? p = c.get? p := by
  simp [get?, h]

@[simp] theorem copy_env (c : Context) : c.copy.env = c.env := rfl
@[simp] theorem copy_roots (c : Context) : c.copy.roots = c.roots := rfl
@[simp] theorem copy_root? (c : Context) (name : String) : c.copy.root? name = c.root? name := rfl
@[simp] theorem copy_rootNames (c : Context) : c.copy.rootNames = c.rootNames := rfl
@[simp] theorem logLines_env (c : Context) (l : List String) : (c.logLines l).env = c.env := rfl
@[simp] theorem logLines_roots (c : Context) (l : List String) :
    (c.logLines l).roots = c.roots := rfl
@[simp] theorem logLines_root? (c : Context) (l : List String) (name : String) :
    (c.logLines l).root? name = c.root? name := rfl
@[simp] theorem logLines_get? (c : Context) (l : List String) (p : Path) :
    (c.logLines l).get? p = c.get? p := rfl
@[simp] theorem logLines_rootNames (c : Context) (l : List String) :
    (c.logLines l).rootNames = c.rootNames := rfl

@[simp] theorem putRoot_env (c : Context) (name : String) (v : Json) :
    (c.putRoot name v).env = c.env := rfl

@[simp] theorem putRoot_log (c : Context) (name : String) (v : Json) :
    (c.putRoot name v).log = c.log := rfl

theorem root?_putRoot_self (h : name ≠ envRoot) : (c.putRoot name v).root? name = some v := by
  simp [root?, putRoot, h]

theorem root?_putRoot_of_ne (h : other ≠ name) :
    (c.putRoot name v).root? other = c.root? other := by
  by_cases he : other = envRoot
  · simp [root?, he]
  · rw [root?_of_ne he, root?_of_ne he]
    exact Members.get?_put_of_ne h v c.roots

theorem rootNames_putRoot_of_mem (h : name ∈ c.rootNames) :
    (c.putRoot name v).rootNames = c.rootNames := Members.names_put_of_mem h v

theorem rootNames_putRoot_of_not_mem (h : name ∉ c.rootNames) :
    (c.putRoot name v).rootNames = c.rootNames ++ [name] := Members.names_put_of_not_mem h v

theorem putRoot_putRoot (c : Context) (name : String) (u v : Json) :
    (c.putRoot name u).putRoot name v = c.putRoot name v := by
  simp [putRoot, Members.put_put]

theorem putRoot_of_root? (hname : name ≠ envRoot) (h : c.root? name = some v) :
    c.putRoot name v = c := by
  rw [root?_of_ne hname] at h
  simp [putRoot, Members.put_of_get? h]

theorem setRoot_of_ne (h : name ≠ envRoot) : c.setRoot name v = .ok (c.putRoot name v) := by
  simp [setRoot, h]

theorem set_eq_ok {p : Path} {change : Change} (h : c.set p v = .ok (change, d)) :
    p.root ≠ envRoot ∧ p.segments.any (Segment.exceeds maxArrayIndex) = false ∧
      d = c.putRoot p.root
        (Json.set v p.segments ((Members.get? p.root c.roots).getD (.object []))) := by
  unfold set at h
  split at h
  · cases h
  · rename_i hroot
    split at h
    · cases h
    · rename_i hindex
      cases h
      exact ⟨hroot, by simpa using hindex, rfl⟩

/-- Whether a write is refused, and why, depends on the place alone. -/
theorem set_eq_error_congr {p : Path} {e : WriteError} (c d : Context) (u v : Json) :
    c.set p u = .error e ↔ d.set p v = .error e := by
  unfold set
  split
  · rfl
  · split
    · rfl
    · simp

theorem remove?_eq_some {p : Path} (h : c.remove? p = some (v, d)) :
    p.root ∈ c.rootNames ∧ ∃ tree, d = c.putRoot p.root tree := by
  obtain ⟨⟨old, tree⟩, hr, heq⟩ := Option.map_eq_some_iff.mp h
  cases heq
  obtain ⟨root, hroot, -⟩ := Option.bind_eq_some_iff.mp hr
  refine ⟨?_, tree, rfl⟩
  rw [rootNames, ← Members.get?_isSome_iff, hroot]
  rfl

theorem rootNames_withEnv (env : Json) : (withEnv env).rootNames = [globalsRoot, ctxRoot] := rfl

theorem wellFormed_withEnv (env : Json) : (withEnv env).WellFormed where
  globals := by rw [rootNames_withEnv]; decide
  ctx := by rw [rootNames_withEnv]; decide
  env := by rw [rootNames_withEnv]; decide
  nodup := by rw [rootNames_withEnv]; decide

namespace WellFormed

theorem of_rootNames_eq (h : c.WellFormed) (hnames : d.rootNames = c.rootNames) : d.WellFormed where
  globals := hnames ▸ h.globals
  ctx := hnames ▸ h.ctx
  env := hnames ▸ h.env
  nodup := hnames ▸ h.nodup

theorem putRoot (h : c.WellFormed) (hname : name ≠ envRoot ∨ name ∈ c.rootNames) (v : Json) :
    (c.putRoot name v).WellFormed where
  globals := Members.mem_names_put.mpr (Or.inr h.globals)
  ctx := Members.mem_names_put.mpr (Or.inr h.ctx)
  env := by
    intro inside
    rcases Members.mem_names_put.mp inside with equal | inside
    · rcases hname with differs | present
      · exact differs equal.symm
      · exact h.env (equal ▸ present)
    · exact h.env inside
  nodup := Members.nodup_put h.nodup name v

theorem root?_globals (h : c.WellFormed) : ∃ v, c.root? globalsRoot = some v := by
  apply Option.isSome_iff_exists.mp
  exact (root?_isSome_iff globalsRoot_ne_envRoot).mpr h.globals

/-- The snapshot of a well-formed namespace holds the environment first, then each root as it
stands. -/
theorem snapshot_eq (h : c.WellFormed) : c.snapshot = .object ((envRoot, c.env) :: c.roots) := by
  have once : (Members.names ([(envRoot, c.env)] ++ c.roots)).Nodup :=
    List.nodup_cons.mpr ⟨h.env, h.nodup⟩
  rw [snapshot, Members.putAll_eq_append once]
  rfl

end WellFormed

theorem isolated_env (c : Context) : c.isolated.env = c.env := by
  unfold isolated
  split <;> rfl

theorem isolated_rootNames (c : Context) : c.isolated.rootNames = [globalsRoot, ctxRoot] := by
  unfold isolated
  split
  · exact Members.names_put_of_mem (wellFormed_withEnv c.env).globals _
  · rfl

theorem isolated_globals (c : Context) :
    c.isolated.root? globalsRoot = some ((c.root? globalsRoot).getD (.object [])) := by
  rw [root?_of_ne (c := c) globalsRoot_ne_envRoot]
  unfold isolated
  split
  · rename_i globals hglobals
    rw [hglobals]
    exact root?_putRoot_self (c := withEnv c.env) globalsRoot_ne_envRoot
  · rename_i hglobals
    rw [hglobals]
    rfl

theorem isolated_ctx (c : Context) : c.isolated.root? ctxRoot = some (.object []) := by
  unfold isolated
  split
  · exact root?_putRoot_of_ne (c := withEnv c.env) ctxRoot_ne_globalsRoot
  · rfl

theorem isolated_congr (henv : c.env = d.env)
    (hglobals : c.root? globalsRoot = d.root? globalsRoot) : c.isolated = d.isolated := by
  rw [root?_of_ne globalsRoot_ne_envRoot, root?_of_ne globalsRoot_ne_envRoot] at hglobals
  simp [isolated, henv, hglobals]

end Assay.Context
