/- digest: What of the log a fault keeps: all lines of the step that it breaks off, unless steps
   inside that had completed took some with them, or a template stopped with some in its variables.
   -/

import Assay.Proofs.Log.Conservation

set_option autoImplicit false
set_option relaxedAutoImplicit false

namespace Assay

namespace Exec

variable {α β : Type} {T : TemplateCatalog} {x y : Exec α} {f g : α → Exec β}

/-- Wherever the templates are the given ones, one computation is given up, or another one ends as
it does and adds the same lines to any log. -/
private def Follows (T : TemplateCatalog) (x y : Exec α) : Prop :=
  ∀ w s, w.templates = T → FollowsFrom w s x y

private theorem Appends.follows {x : Exec α} (h : Appends x) : Follows T x x := fun w s _ => h w s

private theorem follows_pure (a : α) : Follows T (pure a) (pure a) := (appends_pure a).follows

private theorem follows_throw (e : Stop) : Follows T (throw e : Exec α)
    (throw e) := (appends_throw e).follows

private theorem follows_exhausted :
    Follows T (throw .exhausted) y := fun _ _ _ => followsFrom_exhausted

private theorem Follows.bind (h : Follows T x y) (hf : ∀ a, Follows T (f a) (g a)) :
    Follows T (x >>= f) (y >>= g) := fun w s hw => (h w s hw).bind fun a u _ => hf a w u hw

private theorem Appends.follows_bind (h : Appends x) (hf : ∀ a, Follows T (f a) (g a)) :
    Follows T (x >>= f) (x >>= g) := h.follows.bind hf

private theorem Follows.attempt (h : Follows T x y) : Follows T (attempt x) (attempt y) :=
  fun w s hw => (h w s hw).attempt

private theorem Follows.underDeadline (h : Follows T x y) (deadline : Nat) :
    Follows T (underDeadline deadline x) (underDeadline deadline y) := by
  intro w s hw r t hrun hr
  have round := h { w with deadlines := deadline :: w.deadlines } s hw
  rcases hx : x { w with deadlines := deadline :: w.deadlines } s with ⟨(e | a), u⟩
  · simp only [Exec.underDeadline, hx] at hrun
    cases e with
    | fault _ | breakdown _ =>
      obtain ⟨logged, grown, hy⟩ := round _ u hx (by simp)
      cases hrun
      exact ⟨logged, grown, fun l => by simp only [Exec.underDeadline, hy l]⟩
    | cancelled loop =>
      obtain ⟨logged, grown, hy⟩ := round _ u hx (by simp)
      cases loop with
      | zero | succ _ =>
        cases hrun
        exact ⟨logged, grown, fun l => by simp only [Exec.underDeadline, hy l]⟩
    | exhausted =>
      cases hrun
      exact absurd rfl hr
  · simp only [Exec.underDeadline, hx] at hrun
    cases hrun
    obtain ⟨logged, grown, hy⟩ := round _ _ hx (by simp)
    exact ⟨logged, grown, fun l => by simp only [Exec.underDeadline, hy l]⟩

private theorem follows_surroundings_bind {f g : Surroundings → Exec α}
    (h : ∀ w, w.templates = T → Follows T (f w) (g w)) :
    Follows T (surroundings >>= f) (surroundings >>= g) := fun w s hw => h w hw w s hw

private theorem follows_ofDefinition_bind {r : Except DefinitionError α}
    (h : ∀ a, r = .ok a → Follows T (f a) (g a)) :
    Follows T (ofDefinition r >>= f) (ofDefinition r >>= g) := by
  cases r with
  | error e => exact follows_throw _
  | ok a => exact fun w s hw => h a rfl w s hw

private theorem plain_follows (T : TemplateCatalog) : Plain fun _ x => Follows T x x where
  pure := follows_pure
  fault _ := follows_throw _
  bind := Follows.bind
  attempt := Follows.attempt
  reading _ h := follows_surroundings_bind fun w _ => h w
  resolving h := (appends_resolving h).follows

private theorem timed_follows (T : TemplateCatalog) :
    TimedCongruence fun _ x y => Follows T x y where
  own := {
    toPlain := plain_follows T
    write := fun p v => (appends_write p v).follows
    writeRoot := fun name v => (appends_writeRoot name v).follows
    recalling := fun hread h w s hw => followsFrom_context_bind (h s.context w s hw) hread
    restore := fun p old => (appends_restore p old).follows }
  quiet := {
    toPlain := plain_follows T
    readClock := working_appends.readClock.follows
    pause := fun n => (working_appends.pause n).follows
    giveWay := working_appends.giveWay.follows
    send := fun request => (appends_send request).follows }
  bind := Follows.bind
  attempt := Follows.attempt
  recalling _ hread h w s hw := followsFrom_context_bind (h s.context w s hw) hread
  exhausted := follows_exhausted
  underDeadline deadline h := h.underDeadline deadline
  reading _ _ h := follows_surroundings_bind fun w _ => h w

end Exec

open Exec

namespace Guarded

variable {α : Type}

/-- Gives up where a computation stops and leaves lines behind. -/
def strict (left : RunState → List String) (x : Exec α) : Exec α := fun w s =>
  match x w s with
  | (.error e, t) => (.error (if (left t).isEmpty then e else .exhausted), t)
  | completed => completed

/-- Delivers the outputs of a template as ever, but must not stop while the template has lines. -/
def deliver (inside : Context) (outputs : Members Json) (changes : Changes) :
    Members Json → Exec (Context × Members Json × Changes)
  | [] => pure (inside, outputs, changes)
  | (target, v) :: rest => do
    let (v, inside) ← apart inside (strict (·.context.log) (resolveValue v))
    let p ← strict (fun _ => inside.log) (readPath target)
    let change ← strict (fun _ => inside.log) (write p v)
    deliver inside (Members.put target v outputs) (changes.record p change) rest

/-- Runs a template as ever, but must not stop while the template has lines. -/
def expand (name : String) (t : Template) (arguments : Members Json)
    (body : List Step → Exec (List StepResult)) : Exec Outcome := do
  let parameters ← ofDefinition (t.bind arguments)
  let inside ← Use.enter parameters
  let (inner, inside) ← apart inside
    (strict (·.context.log) (naming ("template '" ++ name ++ "'") (body t.steps)))
  let (inside, outputs, changes) ← deliver inside [] .none t.output
  setContext ((← context).logLines inside.log)
  writeRoot Context.thisRoot (.object outputs)
  return { Outcome.passed.withDetails [("template", .string name), ("outputs", .object outputs)] with
    changes := changes }.withInner inner

/-- Runs the template of a name as ever, but must not stop while the template has lines. -/
def use (template : String) (arguments : Members Json)
    (body : List Step → Exec (List StepResult)) : Exec Outcome := do
  let name ← resolveText template
  let t ← ofDefinition ((← surroundings).templates.get name)
  let arguments ← resolving fun scope => Token.expandMembers (Token.resolve scope) arguments
  expand name t arguments body

/-- The work of a step; no template in it must stop while it has lines. -/
def work (body : List Step → Exec (List StepResult)) : Step → Exec Outcome
  | .use _ template arguments => use template arguments body
  | step => step.work body

/-- Runs a step in which steps lie at most so many levels deep; a step that completes must not take
lines with it. -/
def runWithin : Nat → Step → Exec StepResult
  | 0, _ => throw .exhausted
  | levels + 1, step => do
    let outcome ← naming (step.frame.kind ++ " step '" ++ step.frame.label ++ "' failed")
      (work (inTurn (runWithin levels)) step)
    let r ← Step.complete step.frame outcome
    if r.logs.isEmpty then return r else throw .exhausted

section Unless

variable {T : TemplateCatalog}

private theorem unless_strict (left : RunState → List String) (x : Exec α) :
    Unless (· = .exhausted) T (strict left x) x := by
  intro w s _
  rcases hx : x w s with ⟨(e | a), t⟩
  · by_cases none : (left t).isEmpty
    · exact Or.inr (by simp only [strict, hx, if_pos none])
    · exact Or.inl ⟨.exhausted, t, rfl, by simp only [strict, hx, if_neg none]⟩
  · exact Or.inr (by simp only [strict, hx])

private theorem unless_deliver (inside : Context) (outputs : Members Json) (changes : Changes)
    (output : Members Json) :
    Unless (· = .exhausted) T (deliver inside outputs changes output)
      (Use.deliver inside outputs changes output) := by
  induction output generalizing inside outputs changes with
  | nil => exact Unless.refl _ _ _
  | cons e rest ih =>
    refine ((unless_strict _ _).apart inside).bind fun r => ?_
    refine (unless_strict _ _).bind fun p => (unless_strict _ _).bind fun change => ?_
    exact ih _ _ _

private theorem unless_use {body other : List Step → Exec (List StepResult)}
    (h : ∀ steps, Unless (· = .exhausted) T (body steps) (other steps)) (template : String)
    (arguments : Members Json) :
    Unless (· = .exhausted) T (use template arguments body) (Use.run template arguments other) := by
  refine unless_bind fun name => unless_bind fun w => unless_bind fun t => unless_bind fun given => ?_
  refine unless_bind fun parameters => unless_bind fun inside => ?_
  have steps : Unless (· = .exhausted) T
      (strict (·.context.log) (naming ("template '" ++ name ++ "'") (body t.steps)))
      (naming ("template '" ++ name ++ "'") (other t.steps)) := by
    intro w s hw
    have guarded : Unless (· = .exhausted) T _ _ :=
      unless_strict (·.context.log) (naming ("template '" ++ name ++ "'") (body t.steps))
    rcases guarded w s hw with broken | same
    · exact Or.inl broken
    · rw [same]
      exact (nested_unless noFault_exhausted).naming (h t.steps) _ w s hw
  refine (steps.apart inside).bind fun r => ?_
  exact (unless_deliver _ _ _ _).bind fun _ => Unless.refl _ _ _

private theorem unless_runWithin (levels : Nat) (step : Step) :
    Unless (· = .exhausted) T (runWithin levels step) (Step.runWithin levels step) := by
  induction levels generalizing step with
  | zero => exact Unless.refl _ _ _
  | succ levels ih =>
    have timed : TimedCongruence fun _ x y => Unless (· = .exhausted) T x y :=
      timed_unless noFault_exhausted (by simp)
    have body (steps : List Step) : Unless (· = .exhausted) T (inTurn (runWithin levels) steps)
        (inTurn (Step.runWithin levels) steps) := timed.inTurn fun x _ => ih x
    have ran : Unless (· = .exhausted) T (work (inTurn (runWithin levels)) step)
        (step.work (inTurn (Step.runWithin levels))) := by
      cases step with
      | each frame items itemKey indexKey steps =>
        exact timed.each (body steps) _ _ _
      | loop frame condition timeout steps =>
        exact timed.loop (body steps) _ _
      | use frame template arguments => exact unless_use body _ _
      | wait _ _ | check _ | request _ _ | foreign _ _ => exact Unless.refl _ _ _
    refine timed.bind (timed.naming ran _) fun o w s hw => ?_
    rcases h : Step.complete step.frame o w s with ⟨(e | r), t⟩
    · exact Or.inr (bind_of_error h)
    · rw [bind_of_ok h]
      split
      · exact Or.inr rfl
      · exact Or.inl ⟨.exhausted, t, rfl, rfl⟩

end Unless

end Guarded

namespace Exec

variable {α β γ δ : Type} {T : TemplateCatalog} {held : List String}

/-- From a state with lines in hand, the first computation is given up, or a second one that has
these lines in its log ends as the first one does and has in its log the lines in hand at the end.
The first one stops only with no lines in hand, and adds none to its own log. -/
private def FollowsHolding (T : TemplateCatalog) (held : List String) (shown : α → List String)
    (Q : α → β → Prop) (x : Exec α) (y : Exec β) : Prop :=
  ∀ w s r t, w.templates = T → x w s = (r, t) → r ≠ .error .exhausted → t.context.log = s.context.log ∧
    match r with
    | .ok a => held <+: shown a ∧
        ∃ b, Q a b ∧ ∀ l, y w (s.withLog (l ++ held)) = (.ok b, t.withLog (l ++ shown a))
    | .error e => held = [] ∧ ∀ l, y w (s.withLog l) = (.error e, t.withLog l)

section FollowsHolding

variable {shown : α → List String} {shown' : γ → List String} {Q : α → β → Prop} {R : γ → δ → Prop}
  {x : Exec α} {y : Exec β} {f : α → Exec γ} {g : β → Exec δ}

private theorem followsHolding_pure {a : α} {b : β} (h : Q a b) (hshown : shown a = held) :
    FollowsHolding T held shown Q (pure a) (pure b) := by
  intro w s r t _ hrun _
  cases hrun
  subst hshown
  exact ⟨rfl, List.prefix_rfl, b, h, fun _ => rfl⟩

private theorem FollowsHolding.bind (h : FollowsHolding T held shown Q x y)
    (hf : ∀ a b, Q a b → FollowsHolding T (shown a) shown' R (f a) (g b)) :
    FollowsHolding T held shown' R (x >>= f) (y >>= g) := by
  intro w s r t hw hrun hr
  rcases hx : x w s with ⟨(e | a), u⟩
  · rw [bind_of_error hx] at hrun
    cases hrun
    obtain ⟨same, none, hy⟩ := h w s _ _ hw hx (by simpa using hr)
    exact ⟨same, none, fun l => bind_of_error (hy l)⟩
  · rw [bind_of_ok hx] at hrun
    obtain ⟨same, grown, b, hab, hy⟩ := h w s _ u hw hx (by simp)
    obtain ⟨same', rest⟩ := hf a b hab w u r t hw hrun hr
    refine ⟨same'.trans same, ?_⟩
    cases r with
    | ok c =>
      obtain ⟨grown', d, hcd, hg⟩ := rest
      exact ⟨grown.trans grown', d, hcd, fun l => (bind_of_ok (hy l)).trans (hg l)⟩
    | error e =>
      obtain ⟨none, hg⟩ := rest
      rw [none] at grown hy
      have empty : held = [] := List.prefix_nil.mp grown
      rw [empty] at hy
      refine ⟨empty, fun l => ?_⟩
      have first := hy l
      rw [List.append_nil] at first
      rw [bind_of_ok first, hg l]

private theorem followsHolding_strict {x : Exec α} (happends : Appends x)
    (hmute : ∀ w s r t, x w s = (r, t) → t.context.log = s.context.log) (held : List String) :
    FollowsHolding T held (fun _ => held) Eq (Guarded.strict (fun _ => held) x) x := by
  intro w s r t hw hrun hr
  rcases hx : x w s with ⟨(e | a), u⟩
  · simp only [Guarded.strict, hx] at hrun
    cases hrun
    by_cases empty : held.isEmpty
    · rw [if_pos empty] at hr ⊢
      obtain ⟨logged, grown, hy⟩ := happends w s _ _ hx hr
      have none : logged = [] := by simpa [hmute w s _ _ hx] using grown
      rw [none] at hy
      exact ⟨hmute w s _ _ hx, List.isEmpty_iff.mp empty, by simpa using hy⟩
    · exact absurd (by rw [if_neg empty]) hr
  · simp only [Guarded.strict, hx] at hrun
    cases hrun
    obtain ⟨logged, grown, hy⟩ := happends w s _ _ hx (by simp)
    have none : logged = [] := by simpa [hmute w s _ _ hx] using grown
    rw [none] at hy
    exact ⟨hmute w s _ _ hx, List.prefix_rfl, a, rfl, fun l => by simpa using hy (l ++ held)⟩

private theorem Follows.apart {y : Exec α} {x : Exec α} (h : Follows T x y) {c d : Context}
    (hd : SameButLog c d) :
    FollowsHolding T c.log (fun r => r.2.log) (fun r r' => r.1 = r'.1 ∧ SameButLog r.2 r'.2)
      (apart c (Guarded.strict (·.context.log) x)) (Journal.sharing d y) := by
  obtain ⟨own, rfl⟩ := hd
  intro w s r t hw hrun hr
  rcases hx : x w { s with context := c } with ⟨(e | a), u⟩
  · simp only [Exec.apart, Guarded.strict, hx] at hrun
    cases hrun
    by_cases empty : u.context.log.isEmpty
    · rw [if_pos empty] at hr ⊢
      obtain ⟨logged, grown, hy⟩ := h w _ hw _ _ hx (by simpa using hr)
      rw [List.isEmpty_iff.mp empty] at grown
      obtain ⟨none, rfl⟩ := List.append_eq_nil_iff.mp grown.symm
      refine ⟨rfl, none, fun l => ?_⟩
      have shared := hy l
      simp only [RunState.withLog, List.append_nil] at shared
      simp only [Journal.sharing, RunState.withLog, shared]
    · exact absurd (by rw [if_neg empty]) hr
  · simp only [Exec.apart, Guarded.strict, hx] at hrun
    cases hrun
    obtain ⟨logged, grown, hy⟩ := h w _ hw _ _ hx (by simp)
    refine ⟨rfl, ⟨logged, grown.symm⟩, (a, u.context.copy), ⟨rfl, [], rfl⟩, fun l => ?_⟩
    have shared := hy (l ++ c.log)
    simp only [RunState.withLog] at shared
    simp only [Journal.sharing, RunState.withLog, shared]
    rw [List.append_assoc, ← grown]
    rfl

/-- As `FollowsHolding`, but the lines in hand, and whatever comes to them, are in the first one's
own log in the end. -/
private def FollowsSettling (T : TemplateCatalog) (held : List String) (x y : Exec α) : Prop :=
  ∀ w s r t, w.templates = T → x w s = (r, t) → r ≠ .error .exhausted → ∃ logged,
    t.context.log = s.context.log ++ (held ++ logged) ∧
      ∀ l, y w (s.withLog (l ++ held)) = (r, t.withLog (l ++ (held ++ logged)))

private theorem FollowsHolding.settling {f : α → Exec γ} {g : β → Exec γ}
    (h : FollowsHolding T held shown Q x y)
    (hf : ∀ a b, Q a b → FollowsSettling T (shown a) (f a) (g b)) :
    FollowsSettling T held (x >>= f) (y >>= g) := by
  intro w s r t hw hrun hr
  rcases hx : x w s with ⟨(e | a), u⟩
  · rw [bind_of_error hx] at hrun
    cases hrun
    obtain ⟨same, rfl, hy⟩ := h w s _ _ hw hx (by simpa using hr)
    refine ⟨[], by simp [same], fun l => ?_⟩
    have first := hy l
    simp only [List.append_nil]
    exact bind_of_error first
  · rw [bind_of_ok hx] at hrun
    obtain ⟨same, ⟨more, grown⟩, b, hab, hy⟩ := h w s _ u hw hx (by simp)
    obtain ⟨logged, settled, hg⟩ := hf a b hab w u r t hw hrun hr
    rw [← grown, List.append_assoc] at settled
    refine ⟨more ++ logged, by rw [settled, same], fun l => ?_⟩
    rw [bind_of_ok (hy l), hg l, ← grown, List.append_assoc]

private theorem Follows.settling {x y : Exec α} (h : Follows T x y) (held : List String) :
    FollowsSettling T held (do setContext ((← context).logLines held); x) y := by
  intro w s r t hw hrun hr
  obtain ⟨logged, grown, hy⟩ := h w { s with context := s.context.logLines held } hw r t hrun hr
  refine ⟨logged, ?_, fun l => ?_⟩
  · rw [grown, ← List.append_assoc]
    rfl
  · rw [← List.append_assoc]
    exact hy (l ++ held)

private theorem FollowsSettling.follows {x y : Exec α} (h : FollowsSettling T [] x y) :
    Follows T x y := by
  intro w s hw r t hrun hr
  obtain ⟨logged, grown, hy⟩ := h w s r t hw hrun hr
  exact ⟨logged, grown, fun l => by simpa using hy l⟩

end FollowsHolding

end Exec

namespace Guarded

variable {T : TemplateCatalog}

private theorem follows_deliver {inside inside' : Context} (h : SameButLog inside inside')
    (outputs : Members Json) (changes : Changes) (output : Members Json) :
    FollowsHolding T inside.log (fun r => r.1.log) (fun r r' => SameButLog r.1 r'.1 ∧ r'.2 = r.2)
      (deliver inside outputs changes output) (Journal.deliver inside' outputs changes output) := by
  induction output generalizing inside inside' outputs changes with
  | nil => exact followsHolding_pure ⟨h, rfl⟩ rfl
  | cons e rest ih =>
    have value : Follows T (resolveValue e.2) (resolveValue e.2) :=
      (working_appends.resolveValue e.2).follows
    refine (value.apart h).bind ?_
    rintro ⟨v, after⟩ ⟨_, after'⟩ ⟨rfl, hafter⟩
    refine (followsHolding_strict (working_appends.readPath _) ?_ after.log).bind ?_
    · intro w s r t hrun
      cases hread : Path.read? e.1 with
      | none =>
        simp only [readPath, hread, fault_run] at hrun
        cases hrun
        rfl
      | some p =>
        simp only [readPath, hread, pure_run] at hrun
        cases hrun
        rfl
    · rintro p _ rfl
      refine (followsHolding_strict (appends_write p v) ?_ after.log).bind ?_
      · intro w s r t hrun
        rcases hset : s.context.set p v with e | ⟨change, c⟩
        · rw [write_of_error hset] at hrun
          cases hrun
          rfl
        · rw [write_of_ok hset] at hrun
          cases hrun
          exact (Context.set_of_log hset []).2
      · rintro change _ rfl
        exact ih hafter _ _

private theorem follows_expand {body other : List Step → Exec (List StepResult)} {t : Template}
    (h : Follows T (body t.steps) (other t.steps)) (name : String) (arguments : Members Json) :
    Follows T (expand name t arguments body) (Journal.expand name t arguments other) := by
  refine (working_appends.ofDefinition _).follows_bind fun parameters => ?_
  intro w s hw
  have entered : FollowsFrom w s (Use.enter parameters) (Use.enter parameters) := by
    intro r t hrun _
    rw [Use.enter_run] at hrun
    cases hrun
    exact ⟨[], by simp, fun l => by rw [Use.enter_run, List.append_nil]; rfl⟩
  refine entered.bind fun inside u hinside => ?_
  have blank : inside.log = [] := by
    rw [Use.enter_run] at hinside
    cases hinside
    exact Use.log_opened _ _
  have named := (timed_follows T).naming h ("template '" ++ name ++ "'")
  have steps := Follows.apart named (.refl inside)
  rw [blank] at steps
  refine FollowsSettling.follows (steps.settling ?_) w u hw
  rintro ⟨inner, after⟩ ⟨_, after'⟩ ⟨rfl, hafter⟩
  refine (follows_deliver hafter _ _ _).settling ?_
  rintro ⟨last, outputs, changes⟩ ⟨_, _, _⟩ ⟨-, equal⟩
  cases equal
  refine Follows.settling ?_ last.log
  exact (appends_writeRoot _ _).follows_bind fun _ => follows_pure _

private theorem follows_use {body other : List Step → Exec (List StepResult)}
    (h : ∀ name t, T.get name = .ok t → Follows T (body t.steps) (other t.steps)) (template : String)
    (arguments : Members Json) :
    Follows T (use template arguments body) (Journal.use template arguments other) := by
  refine (working_appends.resolveText template).follows_bind fun name => ?_
  refine follows_surroundings_bind fun w hw => ?_
  rw [hw]
  refine follows_ofDefinition_bind fun t ht => ?_
  refine (working_appends.resolving (Token.ignoresLog_expandMembers arguments)).follows_bind ?_
  exact fun given => follows_expand (h name t ht) name given

private theorem follows_work {body other : List Step → Exec (List StepResult)} {step : Step}
    (hforeign : step.ForeignAll ForeignWork.Appends)
    (hcatalog : ∀ name t, T.get name = .ok t → Step.ForeignAllOf ForeignWork.Appends t.steps)
    (h : ∀ steps, Step.ForeignAllOf ForeignWork.Appends steps →
      Follows T (body steps) (other steps)) :
    Follows T (work body step) (Journal.work other step) := by
  cases step with
  | wait frame duration =>
    refine (working_appends.readMilliseconds _ _).follows_bind fun _ => ?_
    exact (working_appends.pause _).follows_bind fun _ => follows_pure _
  | check frame => exact follows_pure _
  | each frame items itemKey indexKey steps => exact (timed_follows T).each (h steps hforeign) _ _ _
  | loop frame condition timeout steps => exact (timed_follows T).loop (h steps hforeign) _ _
  | request frame call => exact (working_appends.call call).follows
  | use frame template arguments =>
    exact follows_use (fun name t ht => h t.steps (hcatalog name t ht)) _ _
  | foreign frame work => exact hforeign.follows

private theorem follows_complete (frame : StepFrame) (o : Outcome) :
    Follows T (do
        let r ← Step.complete frame o
        if r.logs.isEmpty then return r else throw .exhausted)
      (Journal.complete frame o) := by
  simp only [Step.complete, Journal.complete, bind_assoc, pure_bind]
  refine (working_appends.saveAll _ _ _).follows_bind fun changes => ?_
  refine (working_appends.checks _).follows_bind fun findings => ?_
  intro w s _ r t hrun hr
  rw [bind_of_ok (takeLog_run w s)] at hrun
  by_cases empty : s.context.log.isEmpty
  · rw [if_pos empty] at hrun
    cases hrun
    have none : s.context.log = [] := List.isEmpty_iff.mp empty
    refine ⟨[], by simp [none], fun l => ?_⟩
    rw [bind_of_ok (takeLog_run w _), bind_of_ok (context_run w _), none]
    rw [List.append_nil]
    rfl
  · rw [if_neg empty] at hrun
    cases hrun
    exact absurd rfl hr

private theorem follows_runWithin
    (hcatalog : ∀ name t, T.get name = .ok t → Step.ForeignAllOf ForeignWork.Appends t.steps)
    (levels : Nat) {step : Step} (hforeign : step.ForeignAll ForeignWork.Appends) :
    Follows T (runWithin levels step) (Journal.runWithin levels step) := by
  induction levels generalizing step with
  | zero => exact follows_exhausted
  | succ levels ih =>
    have congruent := timed_follows T
    have body (steps : List Step) (h : Step.ForeignAllOf ForeignWork.Appends steps) :
        Follows T (inTurn (runWithin levels) steps) (inTurn (Journal.runWithin levels) steps) :=
      congruent.inTurn fun x hx => ih (Step.foreignAllOf_iff.mp h x hx)
    refine congruent.bind (congruent.naming (follows_work hforeign hcatalog body) _) fun o => ?_
    exact follows_complete step.frame o

end Guarded

namespace Step

variable {w : Surroundings} {s t : RunState} {step : Step}

/-- Where a step faults, no line has got out of reach: no step inside it has completed and taken
lines with it, and no template has stopped while it had lines. That such a run is given up makes no
difference. -/
def KeepsLinesInReach (step : Step) (w : Surroundings) (s : RunState) : Prop :=
  Guarded.runWithin w.depth step w s = step.run w s

private theorem keepsLinesInReach_of_fault {f : Fault}
    (h : Guarded.runWithin w.depth step w s = (.error (.fault f), t)) :
    step.KeepsLinesInReach w s := by
  rcases Guarded.unless_runWithin w.depth step w s rfl with ⟨_, u, rfl, broken⟩ | same
  · cases h.symm.trans broken
  · exact same

private theorem log_of_run {r : StepResult} (h : step.run w s = (.ok r, t)) :
    t.context.log = [] := by
  change runWithin w.depth step w s = (.ok r, t) at h
  cases hdepth : w.depth with
  | zero =>
    rw [hdepth] at h
    exact absurd h throw_ne_ok
  | succ levels =>
    rw [hdepth] at h
    exact log_of_runLayer h

end Step

namespace TestCase

variable {w : Surroundings} {s t : RunState} {steps : List Step} {results : List StepResult} {f : Fault}

private theorem runSteps_eq_fault (h : runSteps steps w s = (.ok (results, some f), t)) :
    ∃ before step after earlier u v, steps = before ++ step :: after ∧
      inTurn Step.run before w s = (.ok earlier, u) ∧ step.run w u = (.error (.fault f), v) ∧
      results = earlier ++ [.ofFault step.frame f v.context.log] ∧ t = v.withLog [] ∧
      (before = [] ∨ u.context.log = []) := by
  induction steps generalizing s results with
  | nil => cases (pure_eq_ok.mp h).1
  | cons step rest ih =>
    obtain ⟨r, u, hstep, h⟩ := bind_eq_ok.mp h
    rcases attempt_eq_ok.mp hstep with ⟨result, rfl, hrun⟩ | ⟨g, rfl, hrun⟩
    · obtain ⟨⟨others, fault⟩, v, hrest, h⟩ := bind_eq_ok.mp h
      obtain ⟨equal, rfl⟩ := pure_eq_ok.mp h
      cases equal
      obtain ⟨before, last, after, earlier, u', v', rfl, hbefore, hlast, rfl, hend, hlog⟩ := ih hrest
      refine ⟨step :: before, last, after, result :: earlier, u', v', rfl, ?_, hlast, rfl, hend, ?_⟩
      · rw [inTurn, bind_of_ok hrun, bind_of_ok hbefore]
        rfl
      · rcases hlog with rfl | drained
        · obtain ⟨-, rfl⟩ := pure_eq_ok.mp hbefore
          exact Or.inr (Step.log_of_run hrun)
        · exact Or.inr drained
    · dsimp only at h
      rw [bind_of_ok (takeLog_run w u)] at h
      obtain ⟨equal, rfl⟩ := pure_eq_ok.mp h
      cases equal
      exact ⟨[], step, rest, [], s, u, rfl, rfl, hrun, rfl, rfl, Or.inl rfl⟩

/-- Where a step of a case faults, the steps before it have completed as ever, and the last result
tells of the fault and shows the lines in the log of the case. If no line has got out of reach
within this step, these are all lines of its journal: it runs to the same fault with one log for its
own and for all templates' variables, and what it adds there comes after what was pending, which is
nothing if steps completed before. -/
theorem fault_shows_lines_in_reach (hforeign : ∀ step ∈ steps, step.ForeignAll ForeignWork.Appends)
    (hcatalog : ∀ name T, w.templates.get name = .ok T → Step.ForeignAllOf ForeignWork.Appends T.steps)
    (h : runSteps steps w s = (.ok (results, some f), t)) :
    ∃ before step after earlier u v, steps = before ++ step :: after ∧
      inTurn Step.run before w s = (.ok earlier, u) ∧ step.run w u = (.error (.fault f), v) ∧
      results = earlier ++ [.ofFault step.frame f v.context.log] ∧
      (before = [] ∨ u.context.log = []) ∧
      (step.KeepsLinesInReach w u → ∃ logged, v.context.log = u.context.log ++ logged ∧
        Journal.run step w u = (.error (.fault f), v)) := by
  obtain ⟨before, step, after, earlier, u, v, hsteps, hbefore, hstep, hresults, -, hlog⟩ :=
    runSteps_eq_fault h
  refine ⟨before, step, after, earlier, u, v, hsteps, hbefore, hstep, hresults, hlog, fun hreach => ?_⟩
  have own : step.ForeignAll ForeignWork.Appends := hforeign step (by simp [hsteps])
  obtain ⟨logged, grown, hy⟩ :=
    Guarded.follows_runWithin hcatalog w.depth own w u rfl _ v (hreach.trans hstep) (by simp)
  refine ⟨logged, grown, ?_⟩
  have journal := hy u.context.log
  rwa [← grown] at journal

/-- A template that pauses for a duration that is none, and one whose duration is not there. -/
def pausing : TemplateCatalog :=
  let pause (duration : Json) : Step := .wait (.saving []) duration
  ⟨[("wrong", ⟨"wrong", none, [("hint", ⟨none, false, none, none⟩)], [pause (.string "soon")], []⟩),
    ("missing", ⟨"missing", none, [], [pause (.string "{{$.ctx.ghost}}")], []⟩)], []⟩

/-- A loop in whose first round a template faults, after an argument was looked for in vain. -/
def pauseInLoop : Step :=
  .each (.saving []) (.array [.null]) "$.item" "$.index"
    [.use (.saving []) "wrong" [("hint", .string "{{$.ctx.ghost}}")]]

theorem pauseInLoop_shows_lines_in_reach : ∃ results f t v,
    runSteps [pauseInLoop] (.still pausing) .initial = (.ok (results, some f), t) ∧
      results = [.ofFault pauseInLoop.frame f ["Path not found: $.ctx.ghost"]] ∧
      Journal.run pauseInLoop (.still pausing) .initial = (.error (.fault f), v) ∧
      v.context.log = ["Path not found: $.ctx.ghost"] := by
  have evaluated : (runSteps [pauseInLoop]).yields (fun r => r.2.isSome &&
      r.1.map (·.logs) == [["Path not found: $.ctx.ghost"]]) (.still pausing) .initial = true := by
    decide +kernel
  obtain ⟨⟨results, fault⟩, t, hrun, shown⟩ := Exec.exists_of_yields evaluated
  obtain ⟨faulted, hlogs⟩ : fault.isSome = true ∧
      results.map (·.logs) = [["Path not found: $.ctx.ghost"]] := by simpa using shown
  obtain ⟨f, rfl⟩ := Option.isSome_iff_exists.mp faulted
  have foreign : ∀ name T, pausing.get name = .ok T →
      Step.ForeignAllOf ForeignWork.Appends T.steps := by
    intro name T h
    rcases List.mem_cons.mp (TemplateCatalog.mem_of_get h) with equal | member
    · cases equal
      exact ⟨trivial, trivial⟩
    · cases List.mem_singleton.mp member
      exact ⟨trivial, trivial⟩
  obtain ⟨before, step, after, earlier, u, v, hsteps, hbefore, -, rfl, -, kept⟩ :=
    fault_shows_lines_in_reach (fun step h => by
      obtain rfl := List.mem_singleton.mp h
      exact ⟨trivial, trivial⟩) foreign hrun
  obtain ⟨rfl, rfl, -⟩ : before = [] ∧ pauseInLoop = step ∧ after = [] := by
    cases before with
    | nil => simpa using hsteps
    | cons first rest => simp at hsteps
  obtain ⟨rfl, rfl⟩ := pure_eq_ok.mp hbefore
  have guarded : (Guarded.runWithin 10 pauseInLoop).faults (fun _ => true) (.still pausing)
      .initial = true := by decide +kernel
  obtain ⟨g, v', hguarded, -⟩ := Exec.exists_of_faults guarded
  obtain ⟨logged, -, journal⟩ := kept (Step.keepsLinesInReach_of_fault hguarded)
  have hlog : v.context.log = ["Path not found: $.ctx.ghost"] := by
    simpa [StepResult.ofFault] using hlogs
  exact ⟨_, f, t, v, hrun, by rw [hlog]; rfl, journal, hlog⟩

/-- The line that tells why a template faults stays behind in the template. -/
theorem fault_in_template_loses_line : ∃ results f t g v,
    runSteps [.use (.saving []) "missing" []] (.still pausing) .initial = (.ok (results, some f), t) ∧
      results.map (·.logs) = [[]] ∧
      Journal.run (.use (.saving []) "missing" []) (.still pausing) .initial = (.error (.fault g), v) ∧
      v.context.log = ["Path not found: $.ctx.ghost"] := by
  have evaluated : (runSteps [.use (.saving []) "missing" []]).yields
      (fun r => r.2.isSome && r.1.map (·.logs) == [[]]) (.still pausing) .initial = true := by
    decide +kernel
  have journal : (Journal.run (.use (.saving []) "missing" [])).faults
      (fun v => v.context.log == ["Path not found: $.ctx.ghost"]) (.still pausing) .initial = true := by
    decide +kernel
  obtain ⟨⟨results, fault⟩, t, hrun, shown⟩ := Exec.exists_of_yields evaluated
  obtain ⟨faulted, hlogs⟩ : fault.isSome = true ∧ results.map (·.logs) = [[]] := by simpa using shown
  obtain ⟨f, rfl⟩ := Option.isSome_iff_exists.mp faulted
  obtain ⟨g, v, hjournal, hlog⟩ := Exec.exists_of_faults journal
  exact ⟨results, f, t, g, v, hrun, hlogs, hjournal, by simpa using hlog⟩

end TestCase

end Assay
