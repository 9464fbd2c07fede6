/- digest: A loop under a condition always ends if its time comes, and what it reports tells why. -/

import Assay.Proofs.Loop.Rounds
import Assay.Proofs.Step.Observation

set_option autoImplicit false
set_option relaxedAutoImplicit false

namespace Assay.Loop

namespace Begun

variable {L : Begun} {v₀ v u t : RunState} {rounds : List (List StepResult)}

private theorem Starts.time (h : L.Starts v u) : u.now = v.now + L.around.pace v.readings := by
  obtain ⟨last, v', checked, -, read, -⟩ := h
  obtain ⟨lines, -, rfl⟩ := Exec.resolving_eq_ok.mp checked
  exact (Exec.readClock_eq_ok.mp read).1

private theorem Starts.early (h : L.Starts v u) : u.now < L.deadline := by
  obtain ⟨last, v', -, -, -, early⟩ := h
  exact early

private theorem Ran.time_le {d : Nat} (h : L.Ran v₀ rounds v) (timely : Exec.Timely L.body)
    (pace : ∀ n, d ≤ L.around.pace n) : v₀.now + rounds.length * d ≤ v.now := by
  induction h with
  | none => simp
  | @next rounds v u t results before starts ran undisturbed ih =>
    have reading := starts.time
    have body := timely.onward L.inside u
    have pause := pace v.readings
    rw [ran] at body
    rw [List.length_append, List.length_singleton, Nat.add_mul, Nat.one_mul]
    dsimp only at body
    omega

private theorem Ran.comes {d : Nat} (h : L.Ran v₀ rounds v) (timely : Exec.Timely L.body)
    (pace : ∀ n, d ≤ L.around.pace n) (enough : L.deadline ≤ v₀.now + (rounds.length + 1) * d) :
    L.deadline ≤ v.now + L.around.pace v.readings := by
  have passed := h.time_le timely pace
  have next := pace v.readings
  rw [Nat.add_mul, Nat.one_mul] at enough
  omega

private theorem Ran.starts_first (h : L.Ran v₀ rounds v) :
    rounds = [] ∧ v = v₀ ∨ ∃ u, L.Starts v₀ u := by
  induction h with
  | none => exact Or.inl ⟨rfl, rfl⟩
  | next before starts ran undisturbed ih =>
    rcases ih with ⟨-, rfl⟩ | earlier
    · exact Or.inr ⟨_, starts⟩
    · exact Or.inr earlier

end Begun

variable {condition : Assertion} {body : LoopBody} {timeout : Json} {w : Surroundings} {s : RunState}

private theorem Begins.not_starts {L : Begun} {v₀ v u : RunState} {rounds : List (List StepResult)}
    (h : Begins condition body timeout w s L v₀) (timeless : L.timeout = 0) (ran : L.Ran v₀ rounds v) :
    ¬ L.Starts v u := by
  obtain ⟨-, -, start⟩ := h.parts
  have first : ∀ u, ¬ L.Starts v₀ u := by
    intro u starts
    have early := starts.early
    rw [starts.time, Begun.deadline, timeless, start] at early
    omega
  rcases ran.starts_first with ⟨-, rfl⟩ | ⟨u, starts⟩
  · exact first u
  · exact absurd starts (first u)

private theorem Begins.withBody {L : Begun} {v₀ : RunState}
    (h : Begins condition body timeout w s L v₀)
    (other : LoopBody) : Begins condition other timeout w s (L.withBody other) v₀ := by
  cases h with
  | intro resolved counted read => exact .intro resolved counted read

/-- A loop under a condition ends if its time comes: with a fault at once if its timeout is no count
of milliseconds, and else after some completed rounds, for one of six reasons, each with a report of
its own. A round is started in no other states than it is said to start in, so no other states of
the body matter, and for a loop without time none. -/
theorem run_ends (readable : ∃ v u, Exec.resolveValue timeout w s = (.ok v, u))
    (orderly : ∀ L v₀, Begins condition body timeout w s L v₀ → L.Orderly v₀) :
    ∃ r t, Loop.run condition timeout body w s = (r, t) ∧
      ((∃ v, Exec.resolveValue timeout w s = (.ok v, t) ∧ milliseconds? v = none ∧
          r = .error (.fault (.told ("invalid while timeout '" ++ v.plainText ++ "'")))) ∨
        ∃ L v₀ rounds v, Begins condition body timeout w s L v₀ ∧ L.Ran v₀ rounds v ∧
          L.Ends rounds v r t ∧
          (∀ other : LoopBody,
            (∀ rounds v u, L.Ran v₀ rounds v → L.Starts v u → other L.inside u = body L.inside u) →
              Loop.run condition timeout other w s = (r, t)) ∧
          (L.timeout = 0 → ∀ other : LoopBody, Loop.run condition timeout other w s = (r, t))) := by
  obtain ⟨v, u, resolved⟩ := readable
  cases counted : milliseconds? v with
  | none =>
    refine ⟨_, u, ?_, Or.inl ⟨v, resolved, counted, rfl⟩⟩
    refine Exec.bind_of_error ?_
    rw [Exec.readMilliseconds, Exec.bind_of_ok resolved, counted]
    rfl
  | some milliseconds =>
    obtain ⟨v₀, read, -⟩ := Exec.exists_readClock w u
    obtain ⟨L, begun⟩ : ∃ L, Begins condition body timeout w s L v₀ :=
      ⟨_, .intro resolved counted read⟩
    obtain ⟨rounds, v, r, t, ran, bounded, ends⟩ := (orderly L v₀ begun).exists_ends
    obtain ⟨rfl, around, -⟩ := begun.parts
    rw [around] at bounded
    have others (other : LoopBody) (same : ∀ rounds v u, L.Ran v₀ rounds v → L.Starts v u →
        other L.inside u = L.body L.inside u) : Loop.run condition timeout other w s = (r, t) :=
      (ran.withBody same).run_eq (begun.withBody other) (ends.withBody fun u => same rounds v u ran)
        bounded
    refine ⟨r, t, ran.run_eq begun ends bounded,
      Or.inr ⟨L, v₀, rounds, v, begun, ran, ends, others, fun timeless other => ?_⟩⟩
    exact others other fun rounds v u ran starts => absurd starts (begun.not_starts timeless ran)

/-- Surroundings in which some time passes before each reading of the clock. -/
def ticking : Surroundings := { Surroundings.still .empty with pace := fun _ => 700 }

def idleRound : LoopBody := Step.runAll [.check (.saving [])]

private theorem idleRound_run {w : Surroundings} (deep : w.depth = 10) (s : RunState) :
    ∃ results t, idleRound w s = (.ok results, t) := by
  cases w
  cases deep
  exact ⟨_, _, rfl⟩

private theorem timely_idleRound : Exec.Timely idleRound :=
  Exec.entire_timely.working.inTurn fun step _ => Exec.entire_timely.step step

private theorem check_isOne (w : Surroundings) (s : RunState) :
    ∃ last t, Exec.check (Step.isOne (.nat 1)) w s = (.ok last, t) :=
  ⟨_, _, Exec.resolving_eq_ok.mpr ⟨[], rfl, rfl⟩⟩

private theorem resolveValue_one_eq_ok {w : Surroundings} {s t : RunState} {v : Json}
    (h : Exec.resolveValue (.nat 1) w s = (.ok v, t)) : v = .nat 1 := by
  obtain ⟨lines, resolved, rfl⟩ := Exec.resolving_eq_ok.mp h
  cases resolved
  rfl

private theorem milliseconds?_one : milliseconds? (.nat 1) = some 1 := by decide +kernel

private theorem ticking_orderly {L : Begun} {v₀ : RunState}
    (h : Begins (Step.isOne (.nat 1)) idleRound (.nat 1) ticking .initial L v₀) : L.Orderly v₀ := by
  cases h with
  | @intro v u milliseconds start _ resolved counted read =>
    obtain rfl := resolveValue_one_eq_ok resolved
    obtain rfl : 1 = milliseconds := Option.some.inj (milliseconds?_one.symm.trans counted)
    obtain ⟨begun, rfl⟩ := Exec.readClock_eq_ok.mp read
    refine ⟨fun rounds v _ => check_isOne _ v, fun rounds v u _ _ => Or.inl (idleRound_run rfl u),
      1, (by decide : 1 < 10), fun rounds v ran single => ?_⟩
    refine ran.comes (d := 700) timely_idleRound (fun _ => Nat.le_refl _) ?_
    rw [single]
    change start + 1 * 1000 ≤ (u.now + ticking.pace u.readings) + (1 + 1) * 700
    omega

/-- A loop of one millisecond in which a look at the clock takes 0.7: it completes one round, and
its time has run out before a second. -/
theorem ticking_ends : ∃ o t L v₀ rounds v,
    Loop.run (Step.isOne (.nat 1)) (.nat 1) idleRound ticking .initial = (.ok o, t) ∧
      Begins (Step.isOne (.nat 1)) idleRound (.nat 1) ticking .initial L v₀ ∧ L.Ran v₀ rounds v ∧
      L.Ends rounds v (.ok o) t ∧ o.inner.length = 1 ∧ o.error = some (lateness 1 1) := by
  have late : Exec.yields (Loop.run (Step.isOne (.nat 1)) (.nat 1) idleRound)
      (fun o => o.inner.length == 1 && o.error == some (lateness 1 1)) ticking .initial = true := by
    decide +kernel
  obtain ⟨o, t, completed, reported⟩ := Exec.exists_of_yields late
  obtain ⟨r, t', run, told⟩ := run_ends (w := ticking) (s := .initial)
    ⟨_, _, Exec.resolving_eq_ok.mpr ⟨[], rfl, rfl⟩⟩ fun L v₀ => ticking_orderly
  cases completed.symm.trans run
  rcases told with ⟨v, resolved, refused, faulted⟩ | ⟨L, v₀, rounds, v, begun, ran, ends, -⟩
  · cases faulted
  · rw [Bool.and_eq_true, beq_iff_eq, beq_iff_eq] at reported
    exact ⟨o, t, L, v₀, rounds, v, run, begun, ran, ends, reported⟩

/-- A loop whose condition has a selector that is refused breaks down, which without that condition
ends well in time. -/
theorem refused_condition_ends_run :
    (∀ w s, w.depth = 10 → ∃ results t, idleRound w s = (.ok results, t)) ∧
    (∃ text t, Loop.run (Step.isOne (.string "{{$.ctx.list[::0]}}")) (.nat 1) idleRound ticking
      Step.listed = (.error (.breakdown text), t)) ∧
    ∃ o t, Loop.run (Step.isOne (.nat 1)) (.nat 1) idleRound ticking Step.listed = (.ok o, t) := by
  have breaks : Exec.breaksDown
      (Loop.run (Step.isOne (.string "{{$.ctx.list[::0]}}")) (.nat 1) idleRound)
      ticking Step.listed = true := by decide +kernel
  have ends : Exec.yields (Loop.run (Step.isOne (.nat 1)) (.nat 1) idleRound) (fun _ => true)
      ticking Step.listed = true := by decide +kernel
  obtain ⟨o, t, ended, -⟩ := Exec.exists_of_yields ends
  exact ⟨fun w s deep => idleRound_run deep s, Exec.broken_of_breaksDown breaks, o, t, ended⟩

end Assay.Loop
