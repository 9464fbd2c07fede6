/- digest: Loops that are broken off from outside are so in one of their rounds, or between two. -/

import Assay.Proofs.Each.Rounds
import Assay.Proofs.Exec.Suspension
import Assay.Proofs.Loop.Rounds

set_option autoImplicit false
set_option relaxedAutoImplicit false

namespace Assay

open Exec

namespace Each

variable {w : Surroundings} {s t : RunState} {P Q : Path} {body : LoopBody} {n : Nat}

private theorem exists_start_of_cancelled {index : Nat} {items : List Json}
    (h : rounds P Q body index items w s = (.error (.cancelled n), t)) :
    ∃ (i : Nat) (item : Json) (start : RunState), items[i]? = some item ∧
      (starts P Q body w index items s)[i]? = some start ∧
        body w start = (.error (.cancelled n), t) := by
  induction items generalizing index s with
  | nil => simp [rounds] at h
  | cons item rest ih =>
    rcases hbind : bind P Q index item w s with ⟨(e | _), u⟩
    · rw [rounds_cons, bind_of_error hbind, end_error_inj] at h
      obtain ⟨rfl, -⟩ := h
      have bound : Prompt (bind P Q index item) :=
        (nested_prompt.write P item).bind fun _ => (nested_prompt.write Q _).bind fun _ => prompt_pure _
      exact absurd hbind (bound w s n u)
    · rw [rounds_cons_of_bind hbind] at h
      rcases hbody : body w u with ⟨(e | results), v⟩ <;> rw [hbody] at h
      · cases e <;> cases h
        exact ⟨0, item, u, rfl, by rw [starts_cons hbind]; rfl, hbody⟩
      · dsimp only at h
        rcases hrest : rounds P Q body (index + 1) rest w v with ⟨(e | others), v'⟩ <;>
          rw [hrest] at h <;> cases h
        obtain ⟨i, item', start, hitem, hstart, hcut⟩ := ih hrest
        exact ⟨i + 1, item', start, hitem, by rw [starts_cons hbind, hbody]; exact hstart, hcut⟩

theorem exists_round_of_cancelled {source : Json} {itemKey indexKey : String}
    (h : run source itemKey indexKey body w s = (.error (.cancelled n), t)) :
    ∃ items u P Q, Opens w s source items u ∧ Path.read? itemKey = some P ∧
      Path.read? indexKey = some Q ∧
        ∃ (i : Nat) (item : Json) (start : RunState), items[i]? = some item ∧
          (starts P Q body w 0 items u)[i]? = some start ∧
            body w start = (.error (.cancelled n), t) := by
  obtain ⟨v, u, resolved, further⟩ := (nested_prompt.resolveValue _).of_bind_cancelled h
  obtain ⟨lines, hresolve, rfl⟩ := resolving_eq_ok.mp resolved
  cases hitems : items? v with
  | none =>
    simp only [hitems] at further
    exact absurd further (prompt_fault _ w _ n t)
  | some items =>
    simp only [hitems] at further
    obtain ⟨P, u, readItem, further⟩ := (nested_prompt.readPath _).of_bind_cancelled further
    obtain ⟨Q, u', readIndex, -⟩ := (nested_prompt.readPath _).of_bind_cancelled further
    obtain ⟨hP, -⟩ := readPath_eq_ok.mp readItem
    obtain ⟨hQ, -⟩ := readPath_eq_ok.mp readIndex
    have opens : Opens w s source items { s with context := s.context.logLines lines } :=
      ⟨v, lines, hresolve, itemsOf_iff.mpr hitems, rfl⟩
    rw [run_of_opens opens hP hQ] at h
    refine ⟨items, _, P, Q, opens, hP, hQ, exists_start_of_cancelled ?_⟩
    refine cancelled_of_bind_prompt (fun results => (nested_prompt.restore _ _).bind fun _ => ?_) h
    refine (nested_prompt.restore _ _).bind fun _ => ?_
    cases results with
    | error f => exact prompt_fault f
    | ok inner => exact prompt_pure _

end Each

namespace Loop

variable {w : Surroundings} {s t v₀ v : RunState} {n : Nat}

private theorem Begun.exists_starts_of_cancelled {L : Begun} {rounds : List (List StepResult)}
    (ran : L.Ran v₀ rounds v) {patience : Nat}
    (h : L.rest patience rounds L.around v = (.error (.cancelled n), t)) :
    ∃ rounds v u, L.Ran v₀ rounds v ∧ L.Starts v u ∧
      (L.body L.inside u = (.error (.cancelled (n + 1)), t) ∨
        ∃ results, L.body L.inside u = (.ok results, t)) := by
  induction patience generalizing rounds v with
  | zero => simp [rest, Loop.rounds] at h
  | succ patience ih =>
    -- An end with another reason is not what happened.
    have other {r : Except Stop Outcome} {t' : RunState} (ends : L.Ends rounds v r t')
        (hr : r ≠ .error (.cancelled n)) : False := by
      have equal := (ends.rest_eq patience).symm.trans h
      exact hr (congrArg Prod.fst equal)
    obtain ⟨last, u, checked, -⟩ := (nested_prompt.check _).of_bind_cancelled h
    cases holds : last.success with
    | false => exact (other (.ended checked holds) (by simp)).elim
    | true =>
      obtain ⟨u', read, -⟩ := exists_readClock L.around u
      rcases Nat.lt_or_ge u'.now L.deadline with early | passed
      · have starts : L.Starts v u' := ⟨last, u, checked, holds, read, early⟩
        rcases hbody : L.body L.inside u' with ⟨(e | results), t'⟩
        · have stopped := (rest_of_starts starts patience rounds).symm.trans h
          cases e with
          | fault f => exact (other (.faulted starts hbody) (by simp)).elim
          | cancelled m =>
            cases m with
            | zero =>
              rw [bind_of_ok (underDeadline_eq_ok.mpr (Or.inr ⟨rfl, hbody⟩))] at stopped
              simp [proceed] at stopped
            | succ m =>
              rw [bind_of_error (underDeadline_of_cancelled hbody)] at stopped
              cases stopped
              exact ⟨rounds, v, u', ran, starts, Or.inl hbody⟩
          | breakdown text | exhausted =>
            rw [bind_of_error (underDeadline_of_stop hbody (by simp))] at stopped
            cases stopped
        · rcases giveWay_cases L.around t' with undisturbed | ⟨m, come, cancelled⟩
          · rw [rest_of_ok starts hbody, bind_of_ok undisturbed] at h
            exact ih (ran.next starts hbody undisturbed) h
          · have equal := ((Ends.between starts hbody come cancelled).rest_eq patience).symm.trans h
            cases equal
            exact ⟨rounds, v, u', ran, starts, Or.inr ⟨results, hbody⟩⟩
      · exact (other (.late checked holds read passed) (by simp)).elim

theorem exists_round_of_cancelled {condition : Assertion} {timeout : Json} {body : LoopBody}
    (h : run condition timeout body w s = (.error (.cancelled n), t)) :
    ∃ L v₀ rounds v u, Begins condition body timeout w s L v₀ ∧ L.Ran v₀ rounds v ∧ L.Starts v u ∧
      (body L.inside u = (.error (.cancelled (n + 1)), t) ∨
        ∃ results, body L.inside u = (.ok results, t)) := by
  obtain ⟨milliseconds, u, timed, further⟩ := (nested_prompt.readMilliseconds _ _).of_bind_cancelled h
  obtain ⟨v, resolved, counted⟩ := readMilliseconds_eq_ok.mp timed
  obtain ⟨start, v₀, read, further⟩ := prompt_readClock.of_bind_cancelled further
  have begun : Begins condition body timeout w s ⟨condition, body, milliseconds, start, w⟩ v₀ :=
    .intro resolved counted read
  obtain ⟨rounds, v, u, ran, starts, cut⟩ :=
    Begun.exists_starts_of_cancelled (L := ⟨condition, body, milliseconds, start, w⟩) .none further
  exact ⟨_, v₀, rounds, v, u, begun, ran, starts, cut⟩

end Loop

end Assay
