/- digest: Two runs side by side, in the same world but with variables of which each has its own:
   what the variables have in common, the runs keep in common, and they end alike. -/

import Assay.Proofs.Exec.Completion

set_option autoImplicit false
set_option relaxedAutoImplicit false

namespace Assay

/-- Two states of the same world, with variables that stand in a relation. -/
structure RunState.Beside (C : Context → Context → Prop) (s s' : RunState) : Prop where
  world : s' = { s with context := s'.context }
  context : C s.context s'.context

namespace Exec

variable {α β γ δ : Type} {C : Context → Context → Prop}

/-- Two computations end alike: both are completed and what they give is related, or both stop for
the same reason; either way their states stay beside each other. -/
def EndAlike (C : Context → Context → Prop) (Q : α → β → Prop) :
    Except Stop α × RunState → Except Stop β × RunState → Prop
  | (.ok a, s), (.ok b, s') => Q a b ∧ s.Beside C s'
  | (.error e, s), (.error e', s') => e = e' ∧ s.Beside C s'
  | _, _ => False

/-- From states beside each other, two computations end alike. -/
def Agree (C : Context → Context → Prop) (Q : α → β → Prop) (x : Exec α) (y : Exec β) : Prop :=
  ∀ (w : Surroundings) (s s' : RunState), s.Beside C s' → EndAlike C Q (x w s) (y w s')

variable {Q : α → β → Prop} {R : γ → δ → Prop} {w : Surroundings} {s s' : RunState}

theorem EndAlike.bind {x : Exec α} {y : Exec β} {f : α → Exec γ} {g : β → Exec δ}
    (h : EndAlike C Q (x w s) (y w s'))
    (hf : ∀ a b u u', Q a b → u.Beside C u' → EndAlike C R (f a w u) (g b w u')) :
    EndAlike C R ((x >>= f) w s) ((y >>= g) w s') := by
  rcases hx : x w s with ⟨(e | a), u⟩ <;> rcases hy : y w s' with ⟨(e' | b), u'⟩ <;>
    rw [hx, hy] at h
  · rw [bind_of_error hx, bind_of_error hy]
    exact h
  · exact h.elim
  · exact h.elim
  · rw [bind_of_ok hx, bind_of_ok hy]
    exact hf a b u u' h.1 h.2

theorem Agree.bind {x : Exec α} {y : Exec β} {f : α → Exec γ} {g : β → Exec δ} (h : Agree C Q x y)
    (hf : ∀ a b, Q a b → Agree C R (f a) (g b)) : Agree C R (x >>= f) (y >>= g) :=
  fun w s s' hs => (h w s s' hs).bind fun a b u u' hab hu => hf a b hab w u u' hu

theorem agree_pure {a : α} {b : β} (h : Q a b) : Agree C Q (pure a) (pure b) :=
  fun _ _ _ hs => ⟨h, hs⟩

private theorem agree_throw (e : Stop) : Agree C Q (throw e) (throw e) := fun _ _ _ hs => ⟨rfl, hs⟩

theorem agree_context : Agree C C context context := fun _ _ _ hs => ⟨hs.context, hs⟩

theorem agree_setContext {c d : Context} (h : C c d) :
    Agree C Eq (setContext c) (setContext d) := by
  intro w s s' hs
  refine ⟨rfl, ?_, h⟩
  rw [hs.world]

theorem agree_ofDefinition (r : Except DefinitionError α) :
    Agree C Eq (ofDefinition r) (ofDefinition r) := by
  cases r with
  | ok a => exact agree_pure rfl
  | error e => exact agree_throw _

theorem agree_readPath (text : String) : Agree C Eq (readPath text) (readPath text) := by
  unfold readPath
  split
  · exact agree_pure rfl
  · exact agree_throw _

theorem agree_apart (c : Context) (x : Exec α) : Agree C Eq (apart c x) (apart c x) := by
  intro w s s' hs
  have same : { s' with context := c } = { s with context := c } := by rw [hs.world]
  unfold apart
  rw [same]
  rcases x w { s with context := c } with ⟨(e | a), u⟩
  · exact ⟨rfl, rfl, hs.context⟩
  · exact ⟨rfl, rfl, hs.context⟩

/-- Two resolutions to one value, or to one refusal, may differ in what they log. -/
theorem endAlike_resolving_bind {r r' : Scope → Token.Resolution α} {f : α → Exec γ}
    {g : α → Exec δ}
    (h : (r (scope w s)).map (·.value) = (r' (scope w s')).map (·.value)) (hs : s.Beside C s')
    (hf : ∀ a lines lines', EndAlike C R (f a w { s with context := s.context.logLines lines })
      (g a w { s' with context := s'.context.logLines lines' })) :
    EndAlike C R ((resolving r >>= f) w s) ((resolving r' >>= g) w s') := by
  rcases hr : r (scope w s) with e | ⟨a, lines⟩ <;>
    rcases hr' : r' (scope w s') with e' | ⟨b, lines'⟩ <;>
    simp only [hr, hr', Except.map, Except.error.injEq, Except.ok.injEq, reduceCtorEq] at h
  · subst h
    rw [bind_of_error (resolving_of_error hr), bind_of_error (resolving_of_error hr')]
    exact ⟨rfl, hs⟩
  · subst h
    rw [bind_of_ok (resolving_of_ok hr), bind_of_ok (resolving_of_ok hr')]
    exact hf a lines lines'

theorem agree_write {p : Path} {v : Json}
    (h : ∀ c d c' d' change change', C c d → c.set p v = .ok (change, c') →
      d.set p v = .ok (change', d') → C c' d') :
    Agree C (fun _ _ => True) (write p v) (write p v) := by
  intro w s s' hs
  rcases hc : s.context.set p v with e | ⟨change, c⟩
  · rw [write_of_error hc, write_of_error ((Context.set_eq_error_congr _ _ v v).mp hc)]
    exact ⟨rfl, hs⟩
  · rcases hd : s'.context.set p v with e | ⟨change', d⟩
    · rw [(Context.set_eq_error_congr _ _ v v).mp hd] at hc
      cases hc
    · rw [write_of_ok hc, write_of_ok hd]
      refine ⟨trivial, ?_, h _ _ c d change change' hs.context hc hd⟩
      rw [hs.world]

theorem agree_writeRoot {name : String} {v : Json} (hname : name ≠ Context.envRoot)
    (h : ∀ c d, C c d → C (c.putRoot name v) (d.putRoot name v)) :
    Agree C Eq (writeRoot name v) (writeRoot name v) := by
  intro w s s' hs
  rw [writeRoot_run hname, writeRoot_run hname]
  refine ⟨rfl, ?_, h _ _ hs.context⟩
  rw [hs.world]

end Exec

end Assay
