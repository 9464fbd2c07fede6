/- digest: How computations end: each way of putting computations together has one law that says
   what a completed run of the whole did. -/

import Assay.Proofs.Context
import Assay.Run.Step

set_option autoImplicit false
set_option relaxedAutoImplicit false

namespace Assay

namespace Exec

variable {α β : Type} {w : Surroundings} {s t : RunState}

/-! The end of a computation is a pair under the identity monad, which hides it from the usual laws
of pairs. -/

@[simp] theorem end_ok_inj {a b : α} :
    @Eq (Id (Except Stop α × RunState)) (.ok a, s) (.ok b, t) ↔ a = b ∧ s = t := by
  change (Except.ok a, s) = (Except.ok b, t) ↔ _
  simp

@[simp] theorem end_error_inj {e e' : Stop} :
    @Eq (Id (Except Stop α × RunState)) (.error e, s) (.error e', t) ↔ e = e' ∧ s = t := by
  change (Except.error e, s) = (Except.error e', t) ↔ _
  simp

@[simp] theorem end_ok_ne_error {a : α} {e : Stop} :
    @Eq (Id (Except Stop α × RunState)) (.ok a, s) (.error e, t) ↔ False := by
  change (Except.ok a, s) = (Except.error e, t) ↔ _
  simp

@[simp] theorem end_error_ne_ok {a : α} {e : Stop} :
    @Eq (Id (Except Stop α × RunState)) (.error e, s) (.ok a, t) ↔ False := by
  change (Except.error e, s) = (Except.ok a, t) ↔ _
  simp

@[simp] theorem pure_run (a : α) (w : Surroundings) (s : RunState) :
    (pure a : Exec α) w s = (.ok a, s) := rfl

@[simp] theorem throw_run (e : Stop) (w : Surroundings) (s : RunState) :
    (throw e : Exec α) w s = (.error e, s) := rfl

@[simp] theorem fault_run (f : Fault) (w : Surroundings) (s : RunState) :
    (fault f : Exec α) w s = (.error (.fault f), s) := rfl

@[simp] theorem surroundings_run (w : Surroundings) (s : RunState) :
    surroundings w s = (.ok w, s) := rfl

@[simp] theorem get_run (w : Surroundings) (s : RunState) :
    (get : Exec RunState) w s = (.ok s, s) := rfl

@[simp] theorem modify_run (f : RunState → RunState) (w : Surroundings) (s : RunState) :
    (modify f : Exec PUnit) w s = (.ok ⟨⟩, f s) := rfl

@[simp] theorem context_run (w : Surroundings) (s : RunState) :
    context w s = (.ok s.context, s) := rfl

@[simp] theorem setContext_run (c : Context) (w : Surroundings) (s : RunState) :
    setContext c w s = (.ok (), { s with context := c }) := rfl

@[simp] theorem takeLog_run (w : Surroundings) (s : RunState) :
    takeLog w s = (.ok s.context.log, { s with context := { s.context with log := [] } }) := rfl

theorem bind_of_ok {x : Exec α} {f : α → Exec β} {a : α} (h : x w s = (.ok a, t)) :
    (x >>= f) w s = f a w t := by
  change (ExceptT.bindCont (fun a => f a w) (x w s).1) (x w s).2 = _
  rw [h]
  rfl

theorem bind_of_error {x : Exec α} {f : α → Exec β} {e : Stop} (h : x w s = (.error e, t)) :
    (x >>= f) w s = (.error e, t) := by
  change (ExceptT.bindCont (fun a => f a w) (x w s).1) (x w s).2 = _
  rw [h]
  rfl

/-- What a completed sequence did: both parts completed, the second from where the first ended. -/
theorem bind_eq_ok {x : Exec α} {f : α → Exec β} {b : β} :
    (x >>= f) w s = (.ok b, t) ↔ ∃ a u, x w s = (.ok a, u) ∧ f a w u = (.ok b, t) := by
  rcases hx : x w s with ⟨r, u⟩
  cases r with
  | ok a =>
    rw [bind_of_ok hx]
    constructor
    · exact fun h => ⟨a, u, rfl, h⟩
    · rintro ⟨a', u', equal, h⟩
      cases equal
      exact h
  | error e =>
    rw [bind_of_error hx]
    simp

/-- What a sequence did that stopped: its first part stopped, or its second from where the first
ended. -/
theorem bind_eq_error {x : Exec α} {f : α → Exec β} {e : Stop} :
    (x >>= f) w s = (.error e, t) ↔
      x w s = (.error e, t) ∨ ∃ a u, x w s = (.ok a, u) ∧ f a w u = (.error e, t) := by
  rcases hx : x w s with ⟨r, u⟩
  cases r with
  | ok a =>
    rw [bind_of_ok hx]
    constructor
    · exact fun h => Or.inr ⟨a, u, rfl, h⟩
    · rintro (h | ⟨a', u', equal, h⟩)
      · cases h
      · cases equal
        exact h
  | error e' =>
    rw [bind_of_error hx]
    simp

theorem pure_eq_ok {a b : α} : (pure a : Exec α) w s = (.ok b, t) ↔ a = b ∧ s = t := by simp

theorem throw_ne_ok {e : Stop} {a : α} : ¬ (throw e : Exec α) w s = (.ok a, t) := by simp

theorem fault_ne_ok {f : Fault} {a : α} : ¬ (fault f : Exec α) w s = (.ok a, t) := by simp

theorem attempt_of_ok {x : Exec α} {a : α} (h : x w s = (.ok a, t)) :
    attempt x w s = (.ok (.ok a), t) := by
  simp [attempt, h]

theorem attempt_of_fault {x : Exec α} {f : Fault} (h : x w s = (.error (.fault f), t)) :
    attempt x w s = (.ok (.error f), t) := by
  simp [attempt, h]

theorem attempt_of_stop {x : Exec α} {e : Stop} (h : x w s = (.error e, t))
    (he : ∀ f, e ≠ .fault f) : attempt x w s = (.error e, t) := by
  cases e with
  | fault f => exact absurd rfl (he f)
  | breakdown _ | cancelled _ | exhausted => simp [attempt, h]

theorem attempt_eq_ok {x : Exec α} {r : Except Fault α} :
    attempt x w s = (.ok r, t) ↔
      (∃ a, r = .ok a ∧ x w s = (.ok a, t)) ∨ (∃ f, r = .error f ∧ x w s = (.error (.fault f), t)) := by
  rcases hx : x w s with ⟨(e | a), u⟩
  · cases e with
    | fault f =>
      rw [attempt_of_fault hx]
      simp [eq_comm]
    | breakdown _ | cancelled _ | exhausted => simp [attempt, hx]
  · rw [attempt_of_ok hx]
    simp [eq_comm]

theorem naming_eq_ok {x : Exec α} {text : String} {a : α} :
    naming text x w s = (.ok a, t) ↔ x w s = (.ok a, t) := by
  unfold naming
  rw [bind_eq_ok]
  constructor
  · rintro ⟨r, u, hr, h⟩
    rcases attempt_eq_ok.mp hr with ⟨b, rfl, hx⟩ | ⟨f, rfl, -⟩
    · obtain ⟨rfl, rfl⟩ := pure_eq_ok.mp h
      exact hx
    · exact absurd h fault_ne_ok
  · intro h
    exact ⟨.ok a, t, attempt_of_ok h, rfl⟩

theorem naming_of_fault {x : Exec α} {f : Fault} (h : x w s = (.error (.fault f), t))
    (text : String) : naming text x w s = (.error (.fault (f.inside text)), t) :=
  bind_of_ok (attempt_of_fault h)

theorem naming_of_stop {x : Exec α} {e : Stop} (h : x w s = (.error e, t))
    (he : ∀ f, e ≠ .fault f) (text : String) : naming text x w s = (.error e, t) :=
  bind_of_error (attempt_of_stop h he)

theorem ofDefinition_eq_ok {r : Except DefinitionError α} {a : α} :
    ofDefinition r w s = (.ok a, t) ↔ r = .ok a ∧ s = t := by
  cases r with
  | ok b => simp [ofDefinition]
  | error e => simp [ofDefinition]

theorem unrefused_eq_ok {r : Except Selector.Refusal α} {a : α} :
    unrefused r w s = (.ok a, t) ↔ r = .ok a ∧ s = t := by
  cases r with
  | ok b => simp [unrefused]
  | error e => simp [unrefused]

def scope (w : Surroundings) (s : RunState) : Scope := ⟨s.context, w.processVariable⟩

theorem resolving_of_ok {r : Scope → Token.Resolution α} {a : α} {lines : List String}
    (h : r (scope w s) = .ok ⟨a, lines⟩) :
    resolving r w s = (.ok a, { s with context := s.context.logLines lines }) := by
  change ((unrefused (r (scope w s))) >>= fun l => do
    setContext (s.context.logLines l.lines)
    return l.value) w s = _
  rw [h]
  rfl

theorem resolving_of_error {r : Scope → Token.Resolution α} {e : Selector.Refusal}
    (h : r (scope w s) = .error e) :
    resolving r w s = (.error (.breakdown e.message), s) := by
  change ((unrefused (r (scope w s))) >>= fun l => do
    setContext (s.context.logLines l.lines)
    return l.value) w s = _
  rw [h]
  rfl

theorem resolving_eq_ok {r : Scope → Token.Resolution α} {a : α} :
    resolving r w s = (.ok a, t) ↔
      ∃ lines, r (scope w s) = .ok ⟨a, lines⟩ ∧
        t = { s with context := s.context.logLines lines } := by
  rcases hr : r (scope w s) with e | ⟨b, lines⟩
  · simp [resolving_of_error hr]
  · rw [resolving_of_ok hr]
    constructor
    · intro h
      cases h
      exact ⟨lines, rfl, rfl⟩
    · rintro ⟨l, equal, rfl⟩
      cases equal
      rfl

theorem readMilliseconds_eq_ok {value : Json} {what : String} {milliseconds : Nat} :
    readMilliseconds value what w s = (.ok milliseconds, t) ↔
      ∃ v, resolveValue value w s = (.ok v, t) ∧ milliseconds? v = some milliseconds := by
  rw [readMilliseconds, bind_eq_ok]
  constructor
  · rintro ⟨v, u, resolved, counted⟩
    cases h : milliseconds? v with
    | none =>
      simp only [h] at counted
      exact absurd counted fault_ne_ok
    | some count =>
      simp only [h, pure_eq_ok] at counted
      obtain ⟨rfl, rfl⟩ := counted
      exact ⟨v, resolved, h⟩
  · rintro ⟨v, resolved, counted⟩
    exact ⟨v, t, resolved, by simp only [counted, pure_run]⟩

theorem readPath_eq_ok {text : String} {p : Path} :
    readPath text w s = (.ok p, t) ↔ Path.read? text = some p ∧ s = t := by
  unfold readPath
  cases Path.read? text with
  | none => simp
  | some q => simp

theorem write_of_ok {p : Path} {v : Json} {change : Change} {c : Context}
    (h : s.context.set p v = .ok (change, c)) :
    write p v w s = (.ok change, { s with context := c }) := by
  rw [write, bind_of_ok (context_run w s), h]
  rfl

theorem write_of_error {p : Path} {v : Json} {e : WriteError}
    (h : s.context.set p v = .error e) :
    write p v w s = (.error (.fault (.ofDefinition e.asDefinition)), s) := by
  rw [write, bind_of_ok (context_run w s), h]
  rfl

theorem write_eq_ok {p : Path} {v : Json} {change : Change} :
    write p v w s = (.ok change, t) ↔
      ∃ c, s.context.set p v = .ok (change, c) ∧ t = { s with context := c } := by
  rcases hc : s.context.set p v with e | ⟨done, c⟩
  · simp [write_of_error hc]
  · rw [write_of_ok hc]
    constructor
    · intro h
      cases h
      exact ⟨c, rfl, rfl⟩
    · rintro ⟨d, equal, rfl⟩
      cases equal
      rfl

theorem writeRoot_run {name : String} (h : name ≠ Context.envRoot) (v : Json) (w : Surroundings)
    (s : RunState) :
    writeRoot name v w s = (.ok (), { s with context := s.context.putRoot name v }) := by
  rw [writeRoot, bind_of_ok (context_run w s), Context.setRoot_of_ne h]
  rfl

theorem apart_eq_ok {c d : Context} {x : Exec α} {a : α} :
    apart c x w s = (.ok (a, d), t) ↔
      ∃ u, x w { s with context := c } = (.ok a, u) ∧ d = u.context ∧
        t = { u with context := s.context } := by
  unfold apart
  rcases hx : x w { s with context := c } with ⟨(e | b), u⟩
  · simp
  · simp only [end_ok_inj, Prod.mk.injEq]
    constructor
    · rintro ⟨⟨rfl, rfl⟩, rfl⟩
      exact ⟨u, ⟨rfl, rfl⟩, rfl, rfl⟩
    · rintro ⟨v, ⟨rfl, rfl⟩, rfl, rfl⟩
      exact ⟨⟨rfl, rfl⟩, rfl⟩

/-- One's own variables are left alone also where the computation on other variables stops. -/
theorem apart_context (c : Context) (x : Exec α) (w : Surroundings) (s : RunState) :
    (apart c x w s).2.context = s.context := by
  unfold apart
  rcases x w { s with context := c } with ⟨(e | a), u⟩ <;> rfl

theorem underDeadline_eq_ok {deadline : Nat} {x : Exec α} {r : Option α} :
    underDeadline deadline x w s = (.ok r, t) ↔
      (∃ a, r = some a ∧ x { w with deadlines := deadline :: w.deadlines } s = (.ok a, t)) ∨
        (r = none ∧
          x { w with deadlines := deadline :: w.deadlines } s = (.error (.cancelled 0), t)) := by
  unfold underDeadline
  rcases hx : x { w with deadlines := deadline :: w.deadlines } s with ⟨(e | a), u⟩
  · cases e with
    | fault _ | breakdown _ | exhausted => simp
    | cancelled loop =>
      cases loop with
      | zero => simp [eq_comm]
      | succ n => simp
  · simp [eq_comm]

theorem inTurn_nil_eq_ok {run : β → Exec α} {results : List α} :
    inTurn run [] w s = (.ok results, t) ↔ results = [] ∧ s = t := by
  simp [inTurn, eq_comm]

theorem inTurn_cons_eq_ok {run : β → Exec α} {b : β} {rest : List β} {results : List α} :
    inTurn run (b :: rest) w s = (.ok results, t) ↔
      ∃ a u others, run b w s = (.ok a, u) ∧ inTurn run rest w u = (.ok others, t) ∧
        results = a :: others := by
  simp only [inTurn, bind_eq_ok, pure_eq_ok]
  constructor
  · rintro ⟨a, u, ha, others, v, ho, rfl, rfl⟩
    exact ⟨a, u, others, ha, ho, rfl⟩
  · rintro ⟨a, u, others, ha, ho, rfl⟩
    exact ⟨a, u, ha, others, t, ho, rfl, rfl⟩

/-- Whatever a computation gives, wherever it completes, has a property. -/
def Gives (P : α → Prop) (x : Exec α) : Prop :=
  ∀ (w : Surroundings) (s : RunState) (a : α) (t : RunState), x w s = (.ok a, t) → P a

section Gives

variable {P : α → Prop} {Q : β → Prop}

theorem Gives.mono {P' : α → Prop} {x : Exec α} (hx : Gives P x) (h : ∀ a, P a → P' a) :
    Gives P' x := fun w s a t ha => h a (hx w s a t ha)

theorem gives_pure {a : α} (h : P a) : Gives P (pure a) := by
  intro w s b t hb
  obtain ⟨rfl, -⟩ := pure_eq_ok.mp hb
  exact h

theorem gives_throw (e : Stop) : Gives P (throw e) := fun _ _ _ _ h => absurd h throw_ne_ok

theorem gives_fault (f : Fault) : Gives P (fault f) := fun _ _ _ _ h => absurd h fault_ne_ok

theorem gives_true (x : Exec α) : Gives (fun _ => True) x := fun _ _ _ _ _ => trivial

theorem Gives.bind {x : Exec α} {f : α → Exec β} (hx : Gives P x) (hf : ∀ a, P a → Gives Q (f a)) :
    Gives Q (x >>= f) := by
  intro w s b t h
  obtain ⟨a, u, ha, hb⟩ := bind_eq_ok.mp h
  exact hf a (hx w s a u ha) w u b t hb

theorem gives_bind {x : Exec α} {f : α → Exec β} (hf : ∀ a, Gives Q (f a)) : Gives Q (x >>= f) :=
  (gives_true x).bind fun a _ => hf a

theorem Gives.attempt {x : Exec α} (hx : Gives P x) :
    Gives (fun r => ∀ a, r = .ok a → P a) (attempt x) := by
  rintro w s r t h a rfl
  rcases attempt_eq_ok.mp h with ⟨b, equal, hb⟩ | ⟨f, equal, -⟩
  · cases equal
    exact hx w s a t hb
  · cases equal

theorem Gives.naming {x : Exec α} (hx : Gives P x) (text : String) : Gives P (naming text x) :=
  fun w s a t h => hx w s a t (naming_eq_ok.mp h)

theorem Gives.apart {x : Exec α} (hx : Gives P x) (c : Context) :
    Gives (fun r => P r.1) (apart c x) := by
  rintro w s ⟨a, d⟩ t h
  obtain ⟨u, hu, -, -⟩ := apart_eq_ok.mp h
  exact hx w _ a u hu

theorem Gives.amid {x : Exec α} (hx : Gives P x) (change : Surroundings → Surroundings) :
    Gives P (amid change x) := fun w s a t h => hx (change w) s a t h

theorem Gives.underDeadline {x : Exec α} (hx : Gives P x) (deadline : Nat) :
    Gives (fun r => ∀ a, r = some a → P a) (underDeadline deadline x) := by
  rintro w s r t h a rfl
  rcases underDeadline_eq_ok.mp h with ⟨b, equal, hb⟩ | ⟨equal, -⟩
  · cases equal
    exact hx _ s a t hb
  · cases equal

theorem gives_inTurn {run : β → Exec α} (h : ∀ b, Gives P (run b)) (l : List β) :
    Gives (fun results => ∀ a ∈ results, P a) (inTurn run l) := by
  induction l with
  | nil =>
    refine gives_pure ?_
    simp
  | cons b rest ih =>
    refine (h b).bind fun a ha => ih.bind fun others hothers => gives_pure ?_
    intro a' member
    rcases List.mem_cons.mp member with rfl | member
    · exact ha
    · exact hothers a' member

end Gives

/-- Whether a computation completes from a state with something that passes a test. -/
def yields (x : Exec α) (test : α → Bool) (w : Surroundings) (s : RunState) : Bool :=
  match x w s with
  | (.ok a, _) => test a
  | (.error _, _) => false

theorem exists_of_yields {x : Exec α} {test : α → Bool} (h : x.yields test w s = true) :
    ∃ a t, x w s = (.ok a, t) ∧ test a = true := by
  unfold yields at h
  rcases hx : x w s with ⟨(e | a), t⟩
  · simp [hx] at h
  · exact ⟨a, t, rfl, by simpa [hx] using h⟩

/-- Whether a computation stops with a fault in a state that passes a test. -/
def faults (x : Exec α) (test : RunState → Bool) (w : Surroundings) (s : RunState) : Bool :=
  match x w s with
  | (.error (.fault _), t) => test t
  | _ => false

theorem exists_of_faults {x : Exec α} {test : RunState → Bool} (h : x.faults test w s = true) :
    ∃ f t, x w s = (.error (.fault f), t) ∧ test t = true := by
  unfold faults at h
  split at h
  · rename_i f t hx
    exact ⟨f, t, hx, h⟩
  · cases h

/-- Whether a computation is completed, or stops with a fault, in a state that passes a test. -/
def endsIn (x : Exec α) (test : RunState → Bool) (w : Surroundings) (s : RunState) : Bool :=
  match x w s with
  | (.ok _, t) | (.error (.fault _), t) => test t
  | _ => false

theorem exists_of_endsIn {x : Exec α} {test : RunState → Bool}
    (h : x.endsIn test w s = true) :
    ∃ r t, x w s = (r, t) ∧ (∀ e, r = .error e → ∃ f, e = .fault f) ∧ test t = true := by
  unfold endsIn at h
  split at h
  · rename_i a t hrun
    exact ⟨_, t, hrun, by simp, h⟩
  · rename_i f t hrun
    refine ⟨_, t, hrun, ?_, h⟩
    rintro e ⟨⟩
    exact ⟨f, rfl⟩
  · cases h

end Exec

/-- What a step has that tests nothing and saves some values. -/
def StepFrame.saving (save : Members Json) : StepFrame := ⟨none, none, none, [], save, "step"⟩

/-- Surroundings in which no time passes and nothing can be reached but templates. -/
def Surroundings.still (templates : TemplateCatalog) : Surroundings :=
  { transport := fun _ _ => .error "unreachable", latency := fun _ _ => 0, templates := templates
    folder := ".", files := .empty, processVariable := fun _ => none, pace := fun _ => 0
    patience := 10, depth := 10, deadlines := [] }

def RunState.initial : RunState := ⟨.empty, 0, 0, []⟩

end Assay
