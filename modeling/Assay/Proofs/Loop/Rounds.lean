/- digest: How a loop under a condition ends: the rounds it completes, what stops it after them, and
   what it then reports. -/

import Assay.Proofs.Exec.Deadline
import Assay.Proofs.Result.Tree

set_option autoImplicit false
set_option relaxedAutoImplicit false

namespace Assay.Loop

/-- A loop whose time runs: it may take `timeout` milliseconds from `start` on. -/
structure Begun where
  condition : Assertion
  body : LoopBody
  timeout : Nat
  start : Nat
  around : Surroundings

/-- How a loop begins in a state: its timeout is read, then the clock. -/
inductive Begins (condition : Assertion) (body : LoopBody) (timeout : Json) (w : Surroundings)
    (s : RunState) : Begun → RunState → Prop
  | intro {v : Json} {u : RunState} {milliseconds start : Nat} {v₀ : RunState}
      (resolved : Exec.resolveValue timeout w s = (.ok v, u))
      (counted : milliseconds? v = some milliseconds)
      (read : Exec.readClock w u = (.ok start, v₀)) :
      Begins condition body timeout w s ⟨condition, body, milliseconds, start, w⟩ v₀

theorem Begins.parts {condition : Assertion} {body : LoopBody} {timeout : Json} {w : Surroundings}
    {s : RunState} {L : Begun} {v₀ : RunState} (h : Begins condition body timeout w s L v₀) :
    L.body = body ∧ L.around = w ∧ L.start = v₀.now := by
  cases h with
  | intro resolved counted read =>
    obtain ⟨time, rfl⟩ := Exec.readClock_eq_ok.mp read
    exact ⟨rfl, rfl, time⟩

/-- The results that a loop shows for its rounds: those of a round without steps are left out. -/
def shown (rounds : List (List StepResult)) : List StepResult :=
  (rounds.zipIdx.filter fun round => !round.1.isEmpty).map fun round => .ofRound round.2 round.1

private theorem shown_append (rounds : List (List StepResult)) (results : List StepResult) :
    shown (rounds ++ [results]) = addRound rounds.length results (shown rounds) := by
  unfold shown addRound
  rw [List.zipIdx_append, List.filter_append, List.map_append, List.zipIdx_singleton]
  cases results with
  | nil => simp
  | cons first rest => simp

/-- What is told of failures among the results that a loop shows. -/
def complaint (inner : List StepResult) : Option String :=
  if Outcome.failures inner = 0 then none
  else some (toString (Outcome.failures inner) ++ " inner step(s) failed")

def lateness (timeout done : Nat) : String :=
  "condition still true after " ++ toString timeout ++ " ms (" ++ toString done ++ " iteration(s))"

namespace Begun

variable {L : Begun} {v₀ v u t : RunState} {rounds : List (List StepResult)}

/-- The time from which on no round starts. -/
def deadline (L : Begun) : Nat := L.start + L.timeout * 1000

/-- What a round has around it: the loop breaks it off in time. -/
def inside (L : Begun) : Surroundings :=
  { L.around with deadlines := Exec.firing L.start L.timeout :: L.around.deadlines }

theorem deadline_le_of_come (h : Exec.Come L.inside 0 t) : L.deadline ≤ t.now := by
  obtain ⟨firing, held, come⟩ := h
  obtain rfl : Exec.firing L.start L.timeout = firing := Option.some.inj held
  simp only [Exec.firing] at come
  unfold deadline
  omega

private theorem come_around {n : Nat} (h : Exec.Come L.inside (n + 1) t) :
    Exec.Come L.around n t := h

/-- The condition holds in `v`, and a round starts in `u`, after a look at the clock. -/
def Starts (L : Begun) (v u : RunState) : Prop :=
  ∃ last v', Exec.check L.condition L.around v = (.ok last, v') ∧ last.success = true ∧
    Exec.readClock L.around v' = (.ok u.now, u) ∧ u.now < L.deadline

/-- The completed rounds of a loop, and the state that they lead to. -/
inductive Ran (L : Begun) (v₀ : RunState) : List (List StepResult) → RunState → Prop
  | none : Ran L v₀ [] v₀
  | next {rounds : List (List StepResult)} {v u t : RunState} {results : List StepResult}
      (before : Ran L v₀ rounds v) (starts : L.Starts v u)
      (ran : L.body L.inside u = (.ok results, t))
      (undisturbed : Exec.giveWay L.around t = (.ok (), t)) : Ran L v₀ (rounds ++ [results]) t

/-- What stops a loop after its completed rounds, and what it then reports. -/
inductive Ends (L : Begun) (rounds : List (List StepResult)) (v : RunState) :
    Except Stop Outcome → RunState → Prop
  /-- The condition fails. -/
  | ended {last : Finding} {t : RunState} (checked : Exec.check L.condition L.around v = (.ok last, t))
      (fails : last.success = false) :
      Ends L rounds v
        (.ok ⟨(shown rounds).all (·.success), complaint (shown rounds),
          some (.object [("iterations", .nat rounds.length), ("condition", last.redacted.toJson)]),
          shown rounds, .none⟩) t
  /-- The condition holds, but the time has run out. -/
  | late {last : Finding} {u t : RunState} (checked : Exec.check L.condition L.around v = (.ok last, u))
      (holds : last.success = true) (read : Exec.readClock L.around u = (.ok t.now, t))
      (passed : L.deadline ≤ t.now) :
      Ends L rounds v
        (.ok ⟨false, some (lateness L.timeout rounds.length),
          some (.object [("iterations", .nat rounds.length), ("condition", last.redacted.toJson)]),
          shown rounds, .none⟩) t
  /-- The time runs out in a round, which is broken off. -/
  | cutOff {u t : RunState} (starts : L.Starts v u) (passed : L.deadline ≤ t.now)
      (cancelled : L.body L.inside u = (.error (.cancelled 0), t)) :
      Ends L rounds v
        (.ok ⟨false, some (lateness L.timeout rounds.length),
          some (.object [("iterations", .nat rounds.length)]), shown rounds, .none⟩) t
  /-- A round faults. -/
  | faulted {u t : RunState} {f : Fault} (starts : L.Starts v u)
      (faults : L.body L.inside u = (.error (.fault f), t)) :
      Ends L rounds v (.error (.fault f)) t
  /-- A loop around breaks a round off. -/
  | within {u t : RunState} {n : Nat} (starts : L.Starts v u) (come : Exec.Come L.around n t)
      (cancelled : L.body L.inside u = (.error (.cancelled (n + 1)), t)) :
      Ends L rounds v (.error (.cancelled n)) t
  /-- A loop around breaks off between two rounds. -/
  | between {u t : RunState} {results : List StepResult} {n : Nat} (starts : L.Starts v u)
      (ran : L.body L.inside u = (.ok results, t)) (come : Exec.Come L.around n t)
      (cancelled : Exec.giveWay L.around t = (.error (.cancelled n), t)) :
      Ends L rounds v (.error (.cancelled n)) t

/-- What is left to do after some rounds. -/
def rest (L : Begun) (patience : Nat) (rounds : List (List StepResult)) : Exec Outcome :=
  Loop.rounds L.condition L.body L.timeout L.start patience rounds.length (shown rounds)

/-- What is left to do after some rounds and a further one, which may have been broken off. -/
def proceed (L : Begun) (patience : Nat) (rounds : List (List StepResult)) :
    Option (List StepResult) → Exec Outcome
  | none => pure (((stillTrue L.timeout rounds.length).withDetails
      [("iterations", .nat rounds.length)]).withInner (shown rounds))
  | some results => Exec.giveWay >>= fun _ => L.rest patience (rounds ++ [results])

theorem rest_of_starts (h : L.Starts v u) (patience : Nat) (rounds : List (List StepResult)) :
    L.rest (patience + 1) rounds L.around v =
      (Exec.underDeadline (Exec.firing L.start L.timeout) L.body >>= L.proceed patience rounds)
        L.around u := by
  obtain ⟨last, v', checked, holds, read, early⟩ := h
  have early : ¬ L.start + L.timeout * 1000 ≤ u.now := Nat.not_le.mpr early
  unfold rest
  rw [Loop.rounds, Exec.bind_of_ok checked, holds]
  simp only [Bool.not_true, Bool.false_eq_true, if_false]
  rw [Exec.bind_of_ok read, if_neg early]
  refine congrArg (fun f => (Exec.underDeadline _ _ >>= f) L.around u) (funext fun results => ?_)
  cases results with
  | none => rfl
  | some results =>
    rw [proceed, rest, shown_append, List.length_append]
    rfl

theorem rest_of_ok {results : List StepResult} (h : L.Starts v u)
    (ran : L.body L.inside u = (.ok results, t)) (patience : Nat) :
    L.rest (patience + 1) rounds L.around v =
      (Exec.giveWay >>= fun _ => L.rest patience (rounds ++ [results])) L.around t := by
  rw [rest_of_starts h]
  exact Exec.bind_of_ok (Exec.underDeadline_eq_ok.mpr (Or.inl ⟨results, rfl, ran⟩))

private theorem withInner_passed (details : Members Json) (inner : List StepResult) :
    (Outcome.passed.withDetails details).withInner inner =
      ⟨inner.all (·.success), complaint inner, some (.object details), inner, .none⟩ := by
  by_cases none : Outcome.failures inner = 0
  · have all : inner.all (·.success) = true := List.all_eq_true.mpr (Outcome.failures_eq_zero_iff.mp none)
    simp [Outcome.withInner, complaint, none, all, Outcome.withDetails, Outcome.passed]
  · have some : inner.all (·.success) = false := by
      rw [Bool.eq_false_iff]
      exact fun all => none (Outcome.failures_eq_zero_iff.mpr (List.all_eq_true.mp all))
    simp [Outcome.withInner, complaint, none, some, Outcome.withDetails, Outcome.passed]

private theorem withInner_stillTrue (timeout done : Nat) (details : Members Json)
    (inner : List StepResult) :
    ((stillTrue timeout done).withDetails details).withInner inner =
      ⟨false, some (lateness timeout done), some (.object details), inner, .none⟩ := by
  dsimp only [Outcome.withInner]
  split
  · rfl
  · rfl

/-- After its last round a loop ends as told, if its patience reaches so far. -/
theorem Ends.rest_eq {r : Except Stop Outcome} (h : L.Ends rounds v r t) (patience : Nat) :
    L.rest (patience + 1) rounds L.around v = (r, t) := by
  cases h with
  | ended checked fails =>
    rw [rest, Loop.rounds, Exec.bind_of_ok checked, fails]
    exact congrArg (fun o => (Except.ok o, t)) (withInner_passed _ _)
  | late checked holds read passed =>
    rw [rest, Loop.rounds, Exec.bind_of_ok checked, holds]
    simp only [Bool.not_true, Bool.false_eq_true, if_false]
    rw [Exec.bind_of_ok read, if_pos (show L.start + L.timeout * 1000 ≤ t.now from passed)]
    exact congrArg (fun o => (Except.ok o, t)) (withInner_stillTrue _ _ _ _)
  | cutOff starts passed cancelled =>
    rw [rest_of_starts starts,
      Exec.bind_of_ok (Exec.underDeadline_eq_ok.mpr (Or.inr ⟨rfl, cancelled⟩))]
    exact congrArg (fun o => (Except.ok o, t)) (withInner_stillTrue _ _ _ _)
  | faulted starts faults =>
    rw [rest_of_starts starts]
    exact Exec.bind_of_error (Exec.underDeadline_of_stop faults (by simp))
  | within starts come cancelled =>
    rw [rest_of_starts starts]
    exact Exec.bind_of_error (Exec.underDeadline_of_cancelled cancelled)
  | between starts ran come cancelled =>
    rw [rest_of_ok starts ran]
    exact Exec.bind_of_error cancelled

private theorem Ran.rest_eq (h : L.Ran v₀ rounds v) (patience : Nat) :
    L.rest (patience + rounds.length) [] L.around v₀ = L.rest patience rounds L.around v := by
  induction h generalizing patience with
  | none => rfl
  | @next rounds v u t results before starts ran undisturbed ih =>
    have longer : patience + (rounds ++ [results]).length = patience + 1 + rounds.length := by
      rw [List.length_append, List.length_singleton]
      omega
    rw [longer, ih, rest_of_ok starts ran, Exec.bind_of_ok undisturbed]

theorem Ran.run_eq {condition : Assertion} {body : LoopBody} {timeout : Json} {w : Surroundings}
    {s : RunState} {r : Except Stop Outcome} (begun : Begins condition body timeout w s L v₀)
    (ran : L.Ran v₀ rounds v) (ends : L.Ends rounds v r t) (bounded : rounds.length < w.patience) :
    Loop.run condition timeout body w s = (r, t) := by
  cases begun with
  | @intro value u milliseconds start _ resolved counted read =>
    have timed : Exec.readMilliseconds timeout "while timeout" w s = (.ok milliseconds, u) :=
      Exec.readMilliseconds_eq_ok.mpr ⟨value, resolved, counted⟩
    obtain ⟨patience, enough⟩ : ∃ patience, w.patience = patience + 1 + rounds.length :=
      ⟨w.patience - rounds.length - 1, by omega⟩
    rw [Loop.run, Exec.bind_of_ok timed, Exec.bind_of_ok read,
      Exec.bind_of_ok (Exec.surroundings_run w v₀), enough]
    exact (ran.rest_eq (patience + 1)).trans (ends.rest_eq patience)

/-- A loop in which nothing breaks down: its condition can always be tested, each of its rounds ends
or is broken off by a loop, and its time comes. -/
structure Orderly (L : Begun) (v₀ : RunState) : Prop where
  tests : ∀ rounds v, L.Ran v₀ rounds v →
    ∃ last u, Exec.check L.condition L.around v = (.ok last, u)
  settles : ∀ rounds v u, L.Ran v₀ rounds v → L.Starts v u →
    (∃ results t, L.body L.inside u = (.ok results, t)) ∨
      (∃ f t, L.body L.inside u = (.error (.fault f), t)) ∨
        ∃ n t, L.body L.inside u = (.error (.cancelled n), t) ∧ Exec.Come L.inside n t
  comes : ∃ k < L.around.patience, ∀ rounds v, L.Ran v₀ rounds v → rounds.length = k →
    L.deadline ≤ v.now + L.around.pace v.readings

private theorem Orderly.ends_or_next (h : L.Orderly v₀) (ran : L.Ran v₀ rounds v) :
    (∃ r t, L.Ends rounds v r t) ∨
      (v.now + L.around.pace v.readings < L.deadline ∧
        ∃ results t, L.Ran v₀ (rounds ++ [results]) t) := by
  obtain ⟨last, u, checked⟩ := h.tests rounds v ran
  obtain ⟨lines, -, rfl⟩ := Exec.resolving_eq_ok.mp checked
  cases holds : last.success with
  | false => exact Or.inl ⟨_, _, .ended checked holds⟩
  | true =>
    obtain ⟨u, read, time⟩ :=
      Exec.exists_readClock L.around { v with context := v.context.logLines lines }
    rw [← time]
    rcases Nat.lt_or_ge u.now L.deadline with early | passed
    · have starts : L.Starts v u := ⟨last, _, checked, holds, read, early⟩
      rcases h.settles rounds v _ ran starts with ⟨results, t, completed⟩ | ⟨f, t, faults⟩ |
        ⟨n, t, cancelled, come⟩
      · rcases Exec.giveWay_cases L.around t with undisturbed | ⟨n, come, cancelled⟩
        · exact Or.inr ⟨early, results, t, ran.next starts completed undisturbed⟩
        · exact Or.inl ⟨_, _, .between starts completed come cancelled⟩
      · exact Or.inl ⟨_, _, .faulted starts faults⟩
      · cases n with
        | zero => exact Or.inl ⟨_, _, .cutOff starts (deadline_le_of_come come) cancelled⟩
        | succ n => exact Or.inl ⟨_, _, .within starts (come_around come) cancelled⟩
    · exact Or.inl ⟨_, _, .late checked holds read passed⟩

theorem Orderly.exists_ends (h : L.Orderly v₀) :
    ∃ rounds v r t, L.Ran v₀ rounds v ∧ rounds.length < L.around.patience ∧ L.Ends rounds v r t := by
  obtain ⟨k, within, comes⟩ := h.comes
  -- By induction on the rounds that are left until the time has come.
  suffices from_here : ∀ left rounds v, L.Ran v₀ rounds v → rounds.length + left = k →
      ∃ rounds v r t, L.Ran v₀ rounds v ∧ rounds.length < L.around.patience ∧ L.Ends rounds v r t from
    from_here k [] v₀ .none (Nat.zero_add k)
  intro left
  induction left with
  | zero =>
    intro rounds v ran reached
    rcases h.ends_or_next ran with ⟨r, t, ends⟩ | ⟨early, -⟩
    · exact ⟨rounds, v, r, t, ran, by omega, ends⟩
    · exact absurd (comes rounds v ran reached) (Nat.not_le.mpr early)
  | succ left ih =>
    intro rounds v ran reached
    rcases h.ends_or_next ran with ⟨r, t, ends⟩ | ⟨-, results, t, further⟩
    · exact ⟨rounds, v, r, t, ran, by omega, ends⟩
    · refine ih _ t further ?_
      rw [List.length_append, List.length_singleton]
      omega

def withBody (L : Begun) (other : LoopBody) : Begun := { L with body := other }

theorem Ran.withBody {other : LoopBody}
    (same : ∀ rounds v u, L.Ran v₀ rounds v → L.Starts v u → other L.inside u = L.body L.inside u)
    (h : L.Ran v₀ rounds v) : (L.withBody other).Ran v₀ rounds v := by
  induction h with
  | none => exact .none
  | @next rounds v u t results before starts ran undisturbed ih =>
    exact ih.next starts ((same rounds v u before starts).trans ran) undisturbed

theorem Ends.withBody {other : LoopBody} {r : Except Stop Outcome}
    (same : ∀ u, L.Starts v u → other L.inside u = L.body L.inside u) (h : L.Ends rounds v r t) :
    (L.withBody other).Ends rounds v r t := by
  cases h with
  | ended checked fails => exact .ended checked fails
  | late checked holds read passed => exact .late checked holds read passed
  | cutOff starts passed cancelled => exact .cutOff starts passed ((same _ starts).trans cancelled)
  | faulted starts faults => exact .faulted starts ((same _ starts).trans faults)
  | within starts come cancelled => exact .within starts come ((same _ starts).trans cancelled)
  | between starts ran come cancelled =>
    exact .between starts ((same _ starts).trans ran) come cancelled

end Begun

end Assay.Loop
