/- digest: Two computations that run from one state, in surroundings that differ in their templates
   alone: unless one of them breaks down, they end in one state and with related results. -/

import Assay.Proofs.Exec.Agreement
import Assay.Proofs.Exec.Pervasive

set_option autoImplicit false
set_option relaxedAutoImplicit false

namespace Assay

namespace Exec

variable {α β γ δ : Type}

/-- A computation runs in the same way whatever the templates are. -/
def TemplateBlind (x : Exec α) : Prop :=
  Indifferent (fun w (T : TemplateCatalog) => { w with templates := T }) x

theorem ordinary_blind : Ordinary fun _ x => TemplateBlind x :=
  ordinary_indifferent fun w T => ⟨T, w.depth, rfl⟩

/-- A computation ended because its work broke down. -/
def Broken (r : Except Stop α × RunState) : Prop := ∃ text t, r = (.error (.breakdown text), t)

def breaksDown (x : Exec α) (w : Surroundings) (s : RunState) : Bool :=
  match x w s with
  | (.error (.breakdown _), _) => true
  | _ => false

theorem broken_of_breaksDown {x : Exec α} {w : Surroundings} {s : RunState}
    (h : x.breaksDown w s = true) : Broken (x w s) := by
  unfold breaksDown at h
  rcases hx : x w s with ⟨(e | a), t⟩
  · cases e with
    | breakdown text => exact ⟨text, t, rfl⟩
    | fault _ | cancelled _ | exhausted => simp [hx] at h
  · simp [hx] at h

/-- Two faults or two values: the same fault, or values that are related. -/
def FaultsAlike (Q : α → β → Prop) : Except Fault α → Except Fault β → Prop
  | .ok a, .ok b => Q a b
  | .error f, .error g => f = g
  | _, _ => False

/-- From every state, unless one of them breaks down, two computations end alike and in one state,
each in surroundings of its own. -/
def Mirror (w w' : Surroundings) (Q : α → β → Prop) (x : Exec α) (y : Exec β) : Prop :=
  ∀ s, Broken (x w s) ∨ Broken (y w' s) ∨ EndAlike Eq Q (x w s) (y w' s)

section Mirror

variable {w w' : Surroundings} {Q : α → β → Prop} {R : γ → δ → Prop} {x : Exec α} {y : Exec β}

private theorem beside_eq_iff {s s' : RunState} : s.Beside Eq s' ↔ s = s' := by
  constructor
  · rintro ⟨world, context⟩
    rw [world, ← context]
  · rintro rfl
    exact ⟨rfl, rfl⟩

theorem Broken.bind {f : α → Exec γ} {s : RunState} (h : Broken (x w s)) :
    Broken ((x >>= f) w s) := by
  obtain ⟨text, t, hx⟩ := h
  exact ⟨text, t, bind_of_error hx⟩

theorem EndAlike.cases {p : Except Stop α × RunState} {q : Except Stop β × RunState}
    (h : EndAlike Eq Q p q) :
    (∃ a b t, p = (.ok a, t) ∧ q = (.ok b, t) ∧ Q a b) ∨
      ∃ e t, p = (.error e, t) ∧ q = (.error e, t) := by
  rcases p with ⟨(e | a), t⟩ <;> rcases q with ⟨(e' | b), t'⟩
  · obtain ⟨rfl, same⟩ := h
    obtain rfl := beside_eq_iff.mp same
    exact Or.inr ⟨e, t, rfl, rfl⟩
  · exact h.elim
  · exact h.elim
  · obtain ⟨hab, same⟩ := h
    obtain rfl := beside_eq_iff.mp same
    exact Or.inl ⟨a, b, t, rfl, rfl, hab⟩

theorem endAlike_of_ok {s t : RunState} {s' : RunState} {a : α} {b : β} (hx : x w s = (.ok a, t))
    (hy : y w' s' = (.ok b, t)) (h : Q a b) : EndAlike Eq Q (x w s) (y w' s') := by
  rw [hx, hy]
  exact ⟨h, beside_eq_iff.mpr rfl⟩

private theorem endAlike_of_error {s t : RunState} {s' : RunState} {e : Stop}
    (hx : x w s = (.error e, t))
    (hy : y w' s' = (.error e, t)) : EndAlike Eq Q (x w s) (y w' s') := by
  rw [hx, hy]
  exact ⟨rfl, beside_eq_iff.mpr rfl⟩

theorem mirror_pure {a : α} {b : β} (h : Q a b) : Mirror w w' Q (pure a) (pure b) :=
  fun s => Or.inr (Or.inr (endAlike_of_ok (pure_run a w s) (pure_run b w' s) h))

theorem mirror_throw (e : Stop) : Mirror w w' Q (throw e) (throw e) :=
  fun s => Or.inr (Or.inr (endAlike_of_error (throw_run e w s) (throw_run e w' s)))

theorem TemplateBlind.mirror_gives (hx : TemplateBlind x) {P : α → Prop} (hgives : Gives P x)
    (hw : w' = { w with templates := w'.templates }) : Mirror w w' (fun a b => a = b ∧ P a) x x := by
  intro s
  have same : x w' s = x w s := by
    rw [hw]
    exact hx w _ s
  rcases hrun : x w s with ⟨(e | a), t⟩
  · exact Or.inr (Or.inr (hrun ▸ endAlike_of_error hrun (same.trans hrun)))
  · have given : P a := hgives w s a t hrun
    exact Or.inr (Or.inr (hrun ▸ endAlike_of_ok hrun (same.trans hrun) ⟨rfl, given⟩))

theorem Mirror.mono {R : α → β → Prop} (h : Mirror w w' Q x y) (hQ : ∀ a b, Q a b → R a b) :
    Mirror w w' R x y := by
  intro s
  rcases h s with broken | broken | alike
  · exact Or.inl broken
  · exact Or.inr (Or.inl broken)
  · refine Or.inr (Or.inr ?_)
    rcases alike.cases with ⟨a, b, t, hx, hy, hab⟩ | ⟨e, t, hx, hy⟩
    · exact endAlike_of_ok hx hy (hQ a b hab)
    · exact endAlike_of_error hx hy

theorem TemplateBlind.mirror (hx : TemplateBlind x)
    (hw : w' = { w with templates := w'.templates }) :
    Mirror w w' Eq x x :=
  (hx.mirror_gives (gives_true x) hw).mono fun _ _ h => h.1

theorem mirror_surroundings_bind {f : Surroundings → Exec α} {g : Surroundings → Exec β}
    (h : Mirror w w' Q (f w) (g w')) :
    Mirror w w' Q (surroundings >>= f) (surroundings >>= g) := h

theorem Mirror.bind {f : α → Exec γ} {g : β → Exec δ} (h : Mirror w w' Q x y)
    (hf : ∀ a b, Q a b → Mirror w w' R (f a) (g b)) : Mirror w w' R (x >>= f) (y >>= g) := by
  intro s
  rcases h s with broken | broken | alike
  · exact Or.inl broken.bind
  · exact Or.inr (Or.inl broken.bind)
  · rcases alike.cases with ⟨a, b, t, hx, hy, hab⟩ | ⟨e, t, hx, hy⟩
    · rw [bind_of_ok hx, bind_of_ok hy]
      exact hf a b hab t
    · exact Or.inr (Or.inr (endAlike_of_error (bind_of_error hx) (bind_of_error hy)))

private theorem Broken.attempt {s : RunState} (h : Broken (x w s)) : Broken (attempt x w s) := by
  obtain ⟨text, t, hx⟩ := h
  exact ⟨text, t, attempt_of_stop hx (by simp)⟩

theorem Mirror.attempt (h : Mirror w w' Q x y) :
    Mirror w w' (FaultsAlike Q) (attempt x) (attempt y) := by
  intro s
  rcases h s with broken | broken | alike
  · exact Or.inl broken.attempt
  · exact Or.inr (Or.inl broken.attempt)
  · refine Or.inr (Or.inr ?_)
    rcases alike.cases with ⟨a, b, t, hx, hy, hab⟩ | ⟨e, t, hx, hy⟩
    · exact endAlike_of_ok (attempt_of_ok hx) (attempt_of_ok hy) hab
    · cases e with
      | fault f => exact endAlike_of_ok (attempt_of_fault hx) (attempt_of_fault hy) rfl
      | breakdown _ | cancelled _ | exhausted =>
        exact endAlike_of_error (attempt_of_stop hx (by simp)) (attempt_of_stop hy (by simp))

theorem Mirror.naming (h : Mirror w w' Q x y) (text : String) :
    Mirror w w' Q (naming text x) (naming text y) := by
  refine h.attempt.bind fun r r' hr => ?_
  cases r with
  | ok a =>
    cases r' with
    | ok b => exact mirror_pure hr
    | error _ => exact hr.elim
  | error f =>
    cases r' with
    | ok _ => exact hr.elim
    | error g =>
      obtain rfl : f = g := hr
      exact mirror_throw _

theorem Mirror.apart (h : Mirror w w' Q x y) (c : Context) :
    Mirror w w' (fun r r' => Q r.1 r'.1 ∧ r.2 = r'.2) (apart c x) (apart c y) := by
  intro s
  rcases h { s with context := c } with ⟨text, t, hx⟩ | ⟨text, t, hy⟩ | alike
  -- A breakdown inside is one outside: only the variables are put back.
  · exact Or.inl ⟨text, { t with context := s.context }, by simp only [Exec.apart, hx]⟩
  · exact Or.inr (Or.inl ⟨text, { t with context := s.context }, by simp only [Exec.apart, hy]⟩)
  · refine Or.inr (Or.inr ?_)
    rcases alike.cases with ⟨a, b, t, hx, hy, hab⟩ | ⟨e, t, hx, hy⟩
    · exact endAlike_of_ok (a := (a, t.context)) (b := (b, t.context))
        (apart_eq_ok.mpr ⟨t, hx, rfl, rfl⟩) (apart_eq_ok.mpr ⟨t, hy, rfl, rfl⟩) ⟨hab, rfl⟩
    · exact endAlike_of_error (e := e) (t := { t with context := s.context })
        (by simp only [Exec.apart, hx]) (by simp only [Exec.apart, hy])

theorem mirror_inTurn {run : γ → Exec α} {run' : δ → Exec β} {l : List γ} {l' : List δ}
    (h : List.Forall₂ (fun b b' => Mirror w w' Q (run b) (run' b')) l l') :
    Mirror w w' (List.Forall₂ Q) (inTurn run l) (inTurn run' l') := by
  induction h with
  | nil => exact mirror_pure .nil
  | cons first _ ih =>
    exact first.bind fun a b hab => ih.bind fun as bs habs => mirror_pure (.cons hab habs)

end Mirror

end Exec

end Assay
