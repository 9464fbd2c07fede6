/- digest: What the resolution of tokens reads of a namespace: its environment and its roots, and
   never the lines that it has logged. -/

import Assay.Proofs.Context
import Assay.Token.Resolve

set_option autoImplicit false
set_option relaxedAutoImplicit false

namespace Assay

private theorem Context.query_congr {c d : Context} (henv : c.env = d.env)
    (hroots : c.roots = d.roots)
    (text : String) : c.query text = d.query text := by
  have roots (name : String) : c.root? name = d.root? name := root?_congr henv hroots name
  have whole : c.snapshot = d.snapshot := by simp [snapshot, henv, hroots]
  simp only [query, roots, whole]

namespace Token

variable {c d : Context} {processVariable : String → Option String}

private theorem lookup_congr (henv : c.env = d.env) (hroots : c.roots = d.roots) :
    lookup c = lookup d := by
  funext path
  simp only [lookup, Context.query_congr henv hroots]

private theorem resolveWithin_congr (henv : c.env = d.env) (hroots : c.roots = d.roots)
    (levels : Nat) :
    resolveWithin ⟨c, processVariable⟩ levels = resolveWithin ⟨d, processVariable⟩ levels := by
  have same : evaluateWith c = evaluateWith d := by
    funext resolve expression
    simp only [evaluateWith, lookup_congr henv hroots]
  induction levels with
  | zero =>
    funext text
    unfold resolveWithin
    rfl
  | succ levels ih =>
    funext text
    unfold resolveWithin
    simp only [same, ih]

theorem resolve_congr (henv : c.env = d.env) (hroots : c.roots = d.roots) :
    resolve ⟨c, processVariable⟩ = resolve ⟨d, processVariable⟩ := by
  funext text
  simp only [resolve, resolveWithin_congr henv hroots]

theorem resolve_logLines (c : Context) (lines : List String)
    (processVariable : String → Option String) :
    resolve ⟨c.logLines lines, processVariable⟩ = resolve ⟨c, processVariable⟩ :=
  resolve_congr rfl rfl

theorem resolveValue_congr (henv : c.env = d.env) (hroots : c.roots = d.roots) (v : Json) :
    resolveValue ⟨c, processVariable⟩ v = resolveValue ⟨d, processVariable⟩ v := by
  simp only [resolveValue, resolve_congr henv hroots]

/-- A resolution that does not look at the lines that the namespace has logged. -/
def IgnoresLog {α : Type} (r : Scope → Resolution α) : Prop :=
  ∀ (c : Context) (lines : List String) (processVariable : String → Option String),
    r ⟨{ c with log := lines }, processVariable⟩ = r ⟨c, processVariable⟩

private theorem resolve_of_log (c : Context) (lines : List String)
    (processVariable : String → Option String) :
    resolve ⟨{ c with log := lines }, processVariable⟩ = resolve ⟨c, processVariable⟩ :=
  resolve_congr rfl rfl

theorem ignoresLog_resolveValue (v : Json) : IgnoresLog fun scope => resolveValue scope v := by
  intro c lines processVariable
  simp only [resolveValue, resolve_of_log]

theorem ignoresLog_resolveText (text : String) :
    IgnoresLog fun scope => resolveText scope text := by
  intro c lines processVariable
  simp only [resolveText, resolve_of_log]

theorem ignoresLog_expandMembers (members : Members Json) :
    IgnoresLog fun scope => expandMembers (resolve scope) members := by
  intro c lines processVariable
  simp only [resolve_of_log]

theorem names_expandMembers {resolve : String → Resolution Json} {members : Members Json}
    {r : Logged (Members Json)} (h : expandMembers resolve members = .ok r) :
    Members.names r.value = Members.names members := by
  induction members generalizing r with
  | nil =>
    cases h
    rfl
  | cons e members ih =>
    obtain ⟨k, v⟩ := e
    simp only [expandMembers, Resolution.andThen] at h
    cases hv : expandWith resolve v with
    | error _ => simp [hv] at h
    | ok first =>
      cases hr : expandMembers resolve members with
      | error _ => simp [hv, hr, Resolution.onValue, Except.map] at h
      | ok rest =>
        simp only [hv, hr, Resolution.onValue, Except.map, Except.ok.injEq] at h
        subst h
        have tail := ih hr
        simp only [Members.names] at tail
        simp [Members.names, tail]

end Token

end Assay
