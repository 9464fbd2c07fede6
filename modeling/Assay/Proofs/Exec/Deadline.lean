/- digest: The time of a run goes on and never back. A run is cancelled only by the deadline of a
   loop around it, when that has come, so one with no loop around is never cancelled. -/

import Assay.Proofs.Exec.Pervasive

set_option autoImplicit false
set_option relaxedAutoImplicit false

namespace Assay.Exec

variable {α β : Type} {w : Surroundings} {s t : RunState}

theorem exists_readClock (w : Surroundings) (s : RunState) :
    ∃ u, readClock w s = (.ok u.now, u) ∧ u.now = s.now + w.pace s.readings :=
  ⟨{ s with now := s.now + w.pace s.readings, readings := s.readings + 1 }, rfl, rfl⟩

theorem readClock_eq_ok {time : Nat} :
    readClock w s = (.ok time, t) ↔ time = s.now + w.pace s.readings ∧
      t = { s with now := s.now + w.pace s.readings, readings := s.readings + 1 } := by
  change (Except.ok (s.now + w.pace s.readings), _) = (Except.ok time, t) ↔ _
  simp [eq_comm]

/-- The deadline of a loop around, counted from the innermost, has come. -/
def Come (w : Surroundings) (loop : Nat) (t : RunState) : Prop :=
  ∃ deadline, w.deadlines[loop]? = some deadline ∧ deadline ≤ t.now

private theorem strikes?_eq_some {time deadline loop : Nat} {deadlines : List Nat}
    (h : strikes? time deadlines = some (deadline, loop)) :
    deadlines[loop]? = some deadline ∧ deadline < time := by
  induction deadlines generalizing deadline loop with
  | nil => cases h
  | cons first around ih =>
    rw [strikes?] at h
    split at h
    · rename_i earliest inner hinner
      obtain ⟨held, before⟩ := ih hinner
      split at h
      · cases h
        exact ⟨rfl, by omega⟩
      · cases h
        exact ⟨held, before⟩
    · split at h
      · cases h
        exact ⟨rfl, by assumption⟩
      · cases h

theorem giveWay_cases (w : Surroundings) (s : RunState) :
    giveWay w s = (.ok (), s) ∨ ∃ n, Come w n s ∧ giveWay w s = (.error (.cancelled n), s) := by
  rcases struck : strikes? (s.now + 1) w.deadlines with _ | ⟨deadline, n⟩
  · refine Or.inl ?_
    rw [giveWay, bind_of_ok (get_run w s), bind_of_ok (surroundings_run w s)]
    simp only [struck, pure_run]
  · obtain ⟨held, before⟩ := strikes?_eq_some struck
    refine Or.inr ⟨n, ⟨deadline, held, by omega⟩, ?_⟩
    rw [giveWay, bind_of_ok (get_run w s), bind_of_ok (surroundings_run w s)]
    simp only [struck, throw_run]

theorem underDeadline_of_stop {deadline : Nat} {x : Exec α} {e : Stop}
    (h : x { w with deadlines := deadline :: w.deadlines } s = (.error e, t))
    (he : ∀ n, e ≠ .cancelled n) : underDeadline deadline x w s = (.error e, t) := by
  cases e with
  | cancelled n => exact absurd rfl (he n)
  | fault _ | breakdown _ | exhausted => simp [underDeadline, h]

theorem underDeadline_of_cancelled {deadline : Nat} {x : Exec α} {n : Nat}
    (h : x { w with deadlines := deadline :: w.deadlines } s = (.error (.cancelled (n + 1)), t)) :
    underDeadline deadline x w s = (.error (.cancelled n), t) := by
  simp [underDeadline, h]

/-- A computation ends no earlier than it begins, and where it is cancelled, no earlier than the
deadline that it is cancelled by. -/
structure Timely (x : Exec α) : Prop where
  onward : ∀ w s, s.now ≤ (x w s).2.now
  comes : ∀ w s n t, x w s = (.error (.cancelled n), t) → Come w n t

variable {x : Exec α} {f : α → Exec β}

private theorem timely_of_end {r : Surroundings → RunState → Except Stop α}
    {next : Surroundings → RunState → RunState} (h : ∀ w s, x w s = (r w s, next w s))
    (hnow : ∀ w s, s.now ≤ (next w s).now) (hr : ∀ w s n, r w s ≠ .error (.cancelled n)) :
    Timely x where
  onward w s := by
    rw [h]
    exact hnow w s
  comes w s n t run := by
    rw [h] at run
    exact absurd (congrArg Prod.fst run) (hr w s n)

private theorem timely_modify {g : RunState → RunState} (h : ∀ s, s.now ≤ (g s).now) :
    Timely (modify g : Exec PUnit) :=
  timely_of_end (modify_run g) (fun _ => h) (by simp)

private theorem timely_pure (a : α) : Timely (pure a) :=
  timely_of_end (pure_run a) (fun _ _ => Nat.le_refl _) (by simp)

private theorem timely_throw {e : Stop} (he : ∀ n, e ≠ .cancelled n) : Timely (throw e : Exec α) :=
  timely_of_end (throw_run e) (fun _ _ => Nat.le_refl _) fun _ _ n equal => he n (Except.error.inj equal)

private theorem Timely.bind (hx : Timely x) (hf : ∀ a, Timely (f a)) : Timely (x >>= f) where
  onward w s := by
    have first := hx.onward w s
    rcases h : x w s with ⟨(e | a), u⟩
    · rw [h] at first
      rwa [bind_of_error h]
    · rw [h] at first
      rw [bind_of_ok h]
      exact Nat.le_trans first ((hf a).onward w u)
  comes w s n t run := by
    rcases bind_eq_error.mp run with first | ⟨a, u, -, second⟩
    · exact hx.comes w s n t first
    · exact (hf a).comes w u n t second

private theorem Timely.attempt (hx : Timely x) : Timely (attempt x) where
  onward w s := by
    have first := hx.onward w s
    rcases h : x w s with ⟨(e | a), u⟩
    · rw [h] at first
      cases e with
      | fault f => rwa [attempt_of_fault h]
      | breakdown _ | cancelled _ | exhausted => rwa [attempt_of_stop h (by simp)]
    · rw [h] at first
      rwa [attempt_of_ok h]
  comes w s n t run := by
    rcases h : x w s with ⟨(e | a), u⟩
    · cases e with
      | fault f => simp [attempt_of_fault h] at run
      | breakdown _ | exhausted => simp [attempt_of_stop h] at run
      | cancelled m =>
        rw [attempt_of_stop h (by simp), end_error_inj] at run
        obtain ⟨equal, rfl⟩ := run
        exact hx.comes w s n u (equal ▸ h)
    · simp [attempt_of_ok h] at run

private theorem Timely.apart (hx : Timely x) (c : Context) : Timely (apart c x) where
  onward w s := by
    have first := hx.onward w { s with context := c }
    rcases h : x w { s with context := c } with ⟨(e | a), u⟩ <;>
      simpa [Exec.apart, h] using first
  comes w s n t run := by
    rcases h : x w { s with context := c } with ⟨(e | a), u⟩
    · simp only [Exec.apart, h, end_error_inj] at run
      obtain ⟨rfl, rfl⟩ := run
      exact hx.comes w _ n u h
    · simp [Exec.apart, h] at run

private theorem Timely.underDeadline (hx : Timely x) (deadline : Nat) :
    Timely (underDeadline deadline x) where
  onward w s := by
    have first := hx.onward { w with deadlines := deadline :: w.deadlines } s
    rcases h : x { w with deadlines := deadline :: w.deadlines } s with ⟨(e | a), u⟩
    · rw [h] at first
      cases e with
      | fault _ | breakdown _ | exhausted => simpa [Exec.underDeadline, h] using first
      | cancelled loop => cases loop <;> simpa [Exec.underDeadline, h] using first
    · simpa [Exec.underDeadline, h] using first
  comes w s n t run := by
    rcases h : x { w with deadlines := deadline :: w.deadlines } s with ⟨(e | a), u⟩
    · cases e with
      | fault _ | breakdown _ | exhausted => simp [Exec.underDeadline, h] at run
      | cancelled loop =>
        cases loop with
        | zero => simp [Exec.underDeadline, h] at run
        | succ loop =>
          simp only [Exec.underDeadline, h, end_error_inj, Stop.cancelled.injEq] at run
          obtain ⟨rfl, rfl⟩ := run
          simpa [Come] using hx.comes { w with deadlines := deadline :: w.deadlines } s _ u h
    · simp [Exec.underDeadline, h] at run

private theorem timely_surroundings_bind {f : Surroundings → Exec β} (hf : ∀ w, Timely (f w)) :
    Timely (surroundings >>= f) where
  onward w s := (hf w).onward w s
  comes w s := (hf w).comes w s

private theorem timely_get_bind {f : RunState → Exec β} (hf : ∀ s, Timely (f s)) :
    Timely (get >>= f) where
  onward w s := (hf s).onward w s
  comes w s := (hf s).comes w s

private theorem timely_waitTo (time : Nat) : Timely (waitTo time) where
  onward w s := by
    rw [waitTo, bind_of_ok (surroundings_run w s)]
    rcases strikes? time w.deadlines with _ | ⟨deadline, loop⟩
    · exact Nat.le_max_left s.now time
    · exact Nat.le_max_left s.now deadline
  comes w s n t run := by
    rw [waitTo, bind_of_ok (surroundings_run w s)] at run
    rcases struck : strikes? time w.deadlines with _ | ⟨deadline, loop⟩
    · simp [struck, passTo] at run
    · simp only [struck, passTo, bind_of_ok (modify_run _ w s), throw_run, end_error_inj,
        Stop.cancelled.injEq] at run
      obtain ⟨rfl, rfl⟩ := run
      exact ⟨deadline, (strikes?_eq_some struck).1, Nat.le_max_right s.now deadline⟩

private theorem timely_giveWay : Timely giveWay where
  onward w s := by
    rcases giveWay_cases w s with run | ⟨n, -, run⟩ <;> simp only [run, Nat.le_refl]
  comes w s n t run := by
    rcases giveWay_cases w s with done | ⟨m, come, cancelled⟩
    · rw [done] at run
      simp at run
    · rw [cancelled, end_error_inj, Stop.cancelled.injEq] at run
      obtain ⟨rfl, rfl⟩ := run
      exact come

private theorem timely_send (request : Http.Request) : Timely (send request) := by
  rw [send_eq]
  refine timely_surroundings_bind fun w => timely_get_bind fun s => ?_
  refine Timely.bind (timely_modify fun _ => Nat.le_refl _) fun _ => ?_
  refine receive_induction timely_pure (fun _ => timely_throw (by simp)) (fun x delay hx => ?_) _ _ _
  exact timely_get_bind fun t => (timely_waitTo _).bind fun _ => hx

theorem entire_timely : Entire fun _ x => Timely x where
  pure := timely_pure
  fault _ := timely_throw (by simp)
  exhausted := timely_throw (by simp)
  breakdown _ := timely_throw (by simp)
  bind := Timely.bind
  attempt := Timely.attempt
  apart c hx := hx.apart c
  underDeadline deadline hx := hx.underDeadline deadline
  context := timely_of_end context_run (fun _ _ => Nat.le_refl _) (by simp)
  setContext c := timely_of_end (setContext_run c) (fun _ _ => Nat.le_refl _) (by simp)
  reading _ := timely_surroundings_bind
  consulting _ := timely_surroundings_bind
  readClock := timely_of_end (fun _ _ => rfl) (fun w s => Nat.le_add_right s.now (w.pace s.readings))
    (by simp)
  pause _ := timely_get_bind fun _ => timely_waitTo _
  giveWay := timely_giveWay
  send := timely_send
  depth h := timely_surroundings_bind fun w => h w.depth
  amid C folder hx :=
    ⟨fun w s => hx.onward { w with templates := C, folder := folder } s,
      fun w s => hx.comes { w with templates := C, folder := folder } s⟩

/-- A computation that is cancelled is so by the deadline of a loop around. -/
def CancelledAround (x : Exec α) : Prop :=
  ∀ w s n t, x w s = (.error (.cancelled n), t) → n < w.deadlines.length

theorem Timely.cancelledAround (hx : Timely x) : CancelledAround x := by
  intro w s n t run
  obtain ⟨deadline, held, -⟩ := hx.comes w s n t run
  obtain ⟨around, -⟩ := List.getElem?_eq_some_iff.mp held
  exact around

end Assay.Exec
