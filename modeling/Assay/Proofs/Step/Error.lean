/- digest: How the errors of steps begin: that of a completed step with a word or a number, that of
   a step that faulted with its kind or with a word, and so none of them with a backtick. -/

import Assay.Proofs.Report.Lines
import Assay.Proofs.Step.Faulting
import Assay.Proofs.Suite.Accounting

set_option autoImplicit false
set_option relaxedAutoImplicit false

namespace Assay

open Exec

/-- A text does not begin with a backtick. -/
def Text.Unticked (text : String) : Prop := text.toList.head? ≠ some '\x60'

instance : DecidablePred Text.Unticked := fun text =>
  inferInstanceAs (Decidable (text.toList.head? ≠ some '\x60'))

private theorem Text.Unticked.append {text more : String} (h : Unticked text)
    (hmore : Unticked more) :
    Unticked (text ++ more) := by
  rw [Unticked, String.toList_append, List.head?_append]
  intro first
  rcases Option.or_eq_some_iff.mp first with own | ⟨-, later⟩
  · exact h own
  · exact hmore later

private theorem Text.unticked_toString (n : Nat) : Unticked (toString n) := fun first =>
  absurd (isDigit_of_mem_toString (List.mem_of_head? first)) (by decide)

namespace Exec

variable {α β : Type} {P Q : Fault → Prop} {w : Surroundings} {s t : RunState}

/-- All faults of a computation have a property. -/
private def FaultsWith (P : Fault → Prop) (x : Exec α) : Prop :=
  ∀ (w : Surroundings) (s t : RunState) (f : Fault), x w s = (.error (.fault f), t) → P f

private theorem Faultless.faultsWith {x : Exec α} (hx : Faultless x) : FaultsWith P x :=
  fun w s t f h => absurd h (hx w s t f)

private theorem FaultsWith.bind {x : Exec α} {g : α → Exec β} (hx : FaultsWith P x)
    (hg : ∀ a, FaultsWith P (g a)) : FaultsWith P (x >>= g) := by
  intro w s t f h
  rcases bind_eq_error.mp h with first | ⟨a, u, -, later⟩
  · exact hx w s t f first
  · exact hg a w u t f later

private theorem FaultsWith.naming {x : Exec α} (hx : FaultsWith P x) {text : String}
    (hinside : ∀ f, P f → Q (f.inside text)) : FaultsWith Q (naming text x) := by
  intro w s t f h
  rcases bind_eq_error.mp h with attempted | ⟨r, u, hr, h⟩
  · exact absurd attempted (faultless_attempt x w s t f)
  · rcases attempt_eq_ok.mp hr with ⟨a, rfl, -⟩ | ⟨inner, rfl, hinner⟩
    · simp at h
    · obtain ⟨equal, -⟩ := end_error_inj.mp h
      cases equal
      exact hinside inner (hx w s u inner hinner)

private theorem faultless_resolving (r : Scope → Token.Resolution α) : Faultless (resolving r) :=
  fun _ _ _ _ => resolving_ne_fault

private theorem faultsWith_true (x : Exec α) :
    FaultsWith (fun _ => True) x := fun _ _ _ _ _ => trivial

end Exec

private theorem Fault.message_inside (text : String) (f : Fault) :
    (f.inside text).message = text ++ (": " ++ f.message) := by
  have some : f.within ++ [f.cause.message] ≠ [] := by simp
  change Text.join ": " (text :: (f.within ++ [f.cause.message])) =
    text ++ (": " ++ Text.join ": " (f.within ++ [f.cause.message]))
  generalize f.within ++ [f.cause.message] = parts at some ⊢
  cases parts with
  | nil => exact absurd rfl some
  | cons part rest =>
    rw [Text.join, String.append_assoc]
    simp

private def Fault.Unticked (f : Fault) : Prop := Text.Unticked f.message

private theorem Fault.unticked_inside {text : String} (h : Text.Unticked text) (f : Fault) :
    (f.inside text).Unticked := by
  rw [Unticked, message_inside]
  refine h.append ?_
  simp [Text.Unticked, String.toList_append]

private theorem WriteError.unticked_asDefinition (e : WriteError) :
    (Fault.ofDefinition e.asDefinition).Unticked := by
  cases e with
  | readOnlyRoot root =>
    change Text.Unticked ("variable root '" ++ root ++ "' is read-only")
    simp [Text.Unticked, String.toList_append]
  | indexTooLarge path =>
    change Text.Unticked ("invalid variable path '" ++ path.display ++ "'")
    simp [Text.Unticked, String.toList_append]

/-- An outcome says nothing, or something that does not begin with a backtick. -/
private def Outcome.Unticked (o : Outcome) :
    Prop := ∀ text, o.error = some text → Text.Unticked text

private theorem Outcome.Unticked.withInner {o : Outcome} (h : o.Unticked)
    (inner : List StepResult) :
    (o.withInner inner).Unticked := by
  intro text told
  dsimp only [Outcome.withInner] at told
  split at told
  · exact h text told
  · rcases Option.or_eq_some_iff.mp told with own | ⟨-, counted⟩
    · exact h text own
    · cases counted
      exact (Text.unticked_toString _).append (by decide)

private theorem Outcome.unticked_passed (details : Members Json) :
    (passed.withDetails details).Unticked := by
  intro text told
  cases told

section Work

variable {body : LoopBody}

private theorem Each.gives_unticked (source : Json) (itemKey indexKey : String) :
    Gives Outcome.Unticked (Each.run source itemKey indexKey body) := by
  refine gives_bind fun source => ?_
  split
  · exact gives_fault _
  · refine gives_bind fun itemPath => gives_bind fun indexPath => gives_bind fun c => gives_bind fun d => ?_
    refine gives_bind fun results => gives_bind fun _ => gives_bind fun _ => ?_
    cases results with
    | error f => exact gives_fault f
    | ok inner => exact gives_pure ((Outcome.unticked_passed _).withInner inner)

private theorem Loop.unticked_stillTrue (timeout done : Nat) (details : Members Json) :
    ((stillTrue timeout done).withDetails details).Unticked := by
  intro text told
  cases told
  simp [Text.Unticked, String.toList_append]

private theorem Loop.gives_rounds_unticked (condition : Assertion)
    (timeout start patience done : Nat)
    (inner : List StepResult) :
    Gives Outcome.Unticked (Loop.rounds condition body timeout start patience done inner) := by
  induction patience generalizing done inner with
  | zero => exact gives_throw _
  | succ patience ih =>
    refine gives_bind fun last => ?_
    split
    · exact gives_pure ((Outcome.unticked_passed _).withInner inner)
    · refine gives_bind fun time => ?_
      split
      · exact gives_pure ((unticked_stillTrue _ _ _).withInner inner)
      · refine gives_bind fun results => ?_
        cases results with
        | none => exact gives_pure ((unticked_stillTrue _ _ _).withInner inner)
        | some results => exact gives_bind fun _ => ih _ _

private theorem Use.gives_unticked (template : String) (arguments : Members Json)
    (body : List Step → Exec (List StepResult)) :
    Gives Outcome.Unticked (Use.run template arguments body) := by
  refine gives_bind fun name => gives_bind fun w => gives_bind fun t => gives_bind fun given => ?_
  refine gives_bind fun bound => gives_bind fun inside => gives_bind fun r => ?_
  refine gives_bind fun d => gives_bind fun c => gives_bind fun _ => gives_bind fun _ => ?_
  refine gives_pure (Outcome.Unticked.withInner ?_ _)
  intro text told
  cases told

end Work

namespace Step

private theorem gives_work_unticked (body : List Step → Exec (List StepResult)) (step : Step) :
    Gives Outcome.Unticked (step.work body) := by
  have passed : Outcome.passed.Unticked := by
    intro text told
    cases told
  cases step with
  | wait frame duration =>
    exact gives_bind fun milliseconds => gives_bind fun _ => gives_pure (Outcome.unticked_passed _)
  | check frame => exact gives_pure passed
  | each frame items itemKey indexKey steps => exact Each.gives_unticked _ _ _
  | loop frame condition timeout steps =>
    refine gives_bind fun timeout => gives_bind fun start => gives_bind fun w => ?_
    exact Loop.gives_rounds_unticked _ _ _ _ _ _
  | request frame call =>
    refine gives_bind fun request => gives_bind fun response => gives_bind fun _ => ?_
    exact gives_pure (Outcome.unticked_passed _)
  | use frame template arguments => exact Use.gives_unticked _ _ _
  | foreign frame work =>
    refine gives_bind fun c => gives_bind fun w => ?_
    split
    · exact gives_bind fun _ => gives_pure passed
    · exact gives_throw _

private theorem gives_run_unticked (step : Step) :
    Gives (fun r => ∀ text, r.error = some text → Text.Unticked text) step.run := by
  refine gives_bind fun w => ?_
  cases w.depth with
  | zero => exact gives_throw _
  | succ levels =>
    refine ((gives_work_unticked _ step).naming _).bind fun o ho => ?_
    refine gives_bind fun changes => gives_bind fun findings => gives_bind fun logs => gives_pure ?_
    intro text told
    rcases Option.or_eq_some_iff.mp told with own | ⟨-, counted⟩
    · exact ho text own
    · split at counted
      · cases counted
      · cases counted
        exact (Text.unticked_toString _).append (by decide)

private theorem faultsWith_saveAll (label : String) (changes : Changes) (save : Members Json) :
    FaultsWith Fault.Unticked (saveAll label changes save) := by
  have written (p : Path) (v : Json) : FaultsWith Fault.Unticked (write p v) := by
    intro w s t f h
    obtain ⟨e, -, rfl, -⟩ := write_eq_fault.mp h
    exact e.unticked_asDefinition
  have target (text : String) : FaultsWith Fault.Unticked (readTarget label text) := by
    have read (text : String) : FaultsWith Fault.Unticked
        (naming ("invalid save target in step '" ++ label ++ "'") (readPath text)) := by
      refine (faultsWith_true _).naming fun f _ => Fault.unticked_inside ?_ f
      simp [Text.Unticked, String.toList_append]
    unfold readTarget
    split
    · exact (faultless_resolving _).faultsWith.bind read
    · exact (faultless_pure text).faultsWith.bind read
  induction save generalizing changes with
  | nil => exact (faultless_pure changes).faultsWith
  | cons entry rest ih =>
    refine (target entry.1).bind fun p => (faultless_resolving _).faultsWith.bind fun v => ?_
    exact (written p v).bind fun change => ih _

private theorem faultsWith_run {step : Step} (kind : Text.Unticked step.frame.kind) :
    FaultsWith Fault.Unticked step.run := by
  refine faultless_surroundings.faultsWith.bind fun w => ?_
  cases w.depth with
  | zero => exact fun w s t f h => by cases h
  | succ levels =>
    refine FaultsWith.bind ?_ fun o => ?_
    · refine (faultsWith_true _).naming fun f _ => Fault.unticked_inside ?_ f
      rw [String.append_assoc, String.append_assoc]
      refine kind.append ?_
      simp [Text.Unticked, String.toList_append]
    · refine (faultsWith_saveAll _ _ _).bind fun changes => ?_
      have checked := faultless_inTurn (fun a => faultless_resolving (Assertion.execute a)) step.frame.checks
      exact (checked.bind fun findings => faultless_takeLog.bind fun logs => faultless_pure _).faultsWith

end Step

theorem StepResult.ComesFrom.unticked {w : Surroundings} {step : Step} {r : StepResult}
    (h : r.ComesFrom w step)
    (kind : Text.Unticked r.kind) : ∀ text, r.error = some text → Text.Unticked text := by
  cases h with
  | completed h => exact step.gives_run_unticked _ _ _ _ h
  | faulted h =>
    intro text told
    cases told
    exact Step.faultsWith_run kind _ _ _ _ h

end Assay
