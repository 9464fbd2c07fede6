/- digest: What a run leaves behind that is broken off by the deadline of a loop around: what its
   completed steps did, and the item and the index of each loop over items that was in one of its
   rounds. -/

import Assay.Proofs.Loop.Cancellation
import Assay.Proofs.Step.Observation
import Mathlib.Logic.Relation

set_option autoImplicit false
set_option relaxedAutoImplicit false

namespace Assay

open Exec
open Relation (ReflTransGen)

/-- A loop over items that was broken off in a round: its places, what the round put there, and the
state that its body started in. -/
structure Each.Cut where
  itemPath : Path
  indexPath : Path
  item : Json
  index : Nat
  body : LoopBody
  start : RunState

namespace Step

variable {levels : Nat} {w : Surroundings} {steps : List Step} {s t u : RunState} {n : Nat}
  {cuts : List Each.Cut}

/-- A step that has something to wait for itself, or in a template. -/
def Waits : Step → Prop
  | .wait _ _ | .request _ _ | .use _ _ _ => True
  | _ => False

/-- Where steps from `s` are broken off in `t`, and the loops over items that this leaves in a
round, the outermost first. -/
inductive Halts :
    Nat → Surroundings → List Step → RunState → List Each.Cut → RunState → Prop
  /-- After a completed step. -/
  | later {levels : Nat} {w : Surroundings} {step : Step} {rest : List Step} {s u t : RunState}
      {result : StepResult} {cuts : List Each.Cut}
      (completed : runWithin levels step w s = (.ok result, u)) (halts : Halts levels w rest u cuts t) :
      Halts levels w (step :: rest) s cuts t
  /-- While a step waits. -/
  | waiting {levels : Nat} {w : Surroundings} {step : Step} {rest : List Step} {s t : RunState}
      (waits : step.Waits) (same : s.context.SameRoots t.context) :
      Halts (levels + 1) w (step :: rest) s [] t
  /-- In a round of a loop over items. -/
  | eachRound {levels n i : Nat} {w : Surroundings} {frame : StepFrame} {source item : Json}
      {itemKey indexKey : String} {steps rest : List Step} {s u start t : RunState} {items : List Json}
      {P Q : Path} {cuts : List Each.Cut} (opens : Each.Opens w s source items u)
      (itemPath : Path.read? itemKey = some P) (indexPath : Path.read? indexKey = some Q)
      (current : items[i]? = some item)
      (starts : (Each.starts P Q (inTurn (runWithin levels) steps) w 0 items u)[i]? = some start)
      (cancelled : inTurn (runWithin levels) steps w start = (.error (.cancelled n), t))
      (halts : Halts levels w steps start cuts t) :
      Halts (levels + 1) w (.each frame source itemKey indexKey steps :: rest) s
        (⟨P, Q, item, i, inTurn (runWithin levels) steps, start⟩ :: cuts) t
  /-- In a round of a loop under a condition. -/
  | loopRound {levels : Nat} {w : Surroundings} {frame : StepFrame} {condition : Assertion}
      {timeout : Json} {steps rest : List Step} {s v₀ v u t : RunState} {L : Loop.Begun}
      {rounds : List (List StepResult)} {cuts : List Each.Cut}
      (begun : Loop.Begins condition (inTurn (runWithin levels) steps) timeout w s L v₀)
      (ran : L.Ran v₀ rounds v) (starts : L.Starts v u) (halts : Halts levels L.inside steps u cuts t) :
      Halts (levels + 1) w (.loop frame condition timeout steps :: rest) s cuts t
  /-- Right after a round of a loop under a condition. -/
  | loopBetween {levels : Nat} {w : Surroundings} {frame : StepFrame} {condition : Assertion}
      {timeout : Json} {steps rest : List Step} {s v₀ v u t : RunState} {L : Loop.Begun}
      {rounds : List (List StepResult)} {results : List StepResult}
      (begun : Loop.Begins condition (inTurn (runWithin levels) steps) timeout w s L v₀)
      (ran : L.Ran v₀ rounds v) (starts : L.Starts v u)
      (completed : inTurn (runWithin levels) steps L.inside u = (.ok results, t)) :
      Halts (levels + 1) w (.loop frame condition timeout steps :: rest) s [] t

private theorem work_of_cancelled {step : Step}
    (h : runWithin (levels + 1) step w s = (.error (.cancelled n), t)) :
    step.work (inTurn (runWithin levels)) w s = (.error (.cancelled n), t) := by
  rw [runWithin, runLayer] at h
  exact naming_eq_cancelled.mp (cancelled_of_bind_prompt (nested_prompt.complete _) h)

private theorem exists_halts (levels : Nat) : ∀ {steps : List Step} {w : Surroundings}
    {s t : RunState}
    {n : Nat}, inTurn (runWithin levels) steps w s = (.error (.cancelled n), t) →
      ∃ cuts, Halts levels w steps s cuts t := by
  -- On the levels, as a step is broken off among the steps inside it, and there on the list.
  induction levels with
  | zero =>
    intro steps w s t n h
    cases steps with
    | nil => simp [inTurn] at h
    | cons step rest =>
      rcases Exec.bind_eq_error.mp h with first | ⟨result, u, completed, -⟩
      · simp [runWithin] at first
      · simp [runWithin] at completed
  | succ levels ih =>
    intro steps
    induction steps with
    | nil =>
      intro w s t n h
      simp [inTurn] at h
    | cons step rest others =>
      intro w s t n h
      rcases Exec.bind_eq_error.mp h with first | ⟨result, u, completed, further⟩
      · have work := work_of_cancelled first
        have same := Context.SameRoots.logBlind s.context
        cases step with
        | wait frame duration =>
          exact ⟨[], .waiting trivial (cutsIn_wait same frame duration _ w s n t (.refl _) work)⟩
        | request frame call =>
          exact ⟨[], .waiting trivial (cutsIn_call same call w s n t (.refl _) work)⟩
        | use frame template arguments =>
          exact ⟨[], .waiting trivial (cutsIn_use same template arguments _ w s n t (.refl _) work)⟩
        | check frame => exact absurd work (prompt_pure _ w s n t)
        | foreign frame foreign => exact absurd work (immediate_prompt.foreign foreign w s n t)
        | each frame source itemKey indexKey steps =>
          obtain ⟨items, u, P, Q, opens, hP, hQ, i, item, start, current, starts, cancelled⟩ :=
            Each.exists_round_of_cancelled work
          obtain ⟨cuts, halts⟩ := ih cancelled
          exact ⟨_, .eachRound opens hP hQ current starts cancelled halts⟩
        | loop frame condition timeout steps =>
          obtain ⟨L, v₀, rounds, v, u, begun, ran, starts, cancelled | ⟨results, completed⟩⟩ :=
            Loop.exists_round_of_cancelled work
          · obtain ⟨cuts, halts⟩ := ih cancelled
            exact ⟨cuts, .loopRound begun ran starts halts⟩
          · exact ⟨[], .loopBetween begun ran starts completed⟩
      · obtain ⟨cuts, halts⟩ := others (cancelled_of_bind_prompt (fun _ => prompt_pure _) further)
        exact ⟨cuts, .later completed halts⟩

/-- A step is one of some steps, or lies inside a loop of theirs. -/
inductive Among : Step → List Step → Prop
  | here {step : Step} {steps : List Step} (member : step ∈ steps) : Among step steps
  | each {step : Step} {frame : StepFrame} {source : Json} {itemKey indexKey : String}
      {inner steps : List Step} (member : .each frame source itemKey indexKey inner ∈ steps)
      (among : Among step inner) : Among step steps
  | loop {step : Step} {frame : StepFrame} {condition : Assertion} {timeout : Json}
      {inner steps : List Step} (member : .loop frame condition timeout inner ∈ steps)
      (among : Among step inner) : Among step steps

private theorem Among.mono {step : Step} {steps steps' : List Step} (h : Among step steps)
    (sub : ∀ step ∈ steps, step ∈ steps') : Among step steps' := by
  cases h with
  | here member => exact .here (sub _ member)
  | each member among => exact .each (sub _ member) among
  | loop member among => exact .loop (sub _ member) among

/-- What may happen to the variables: a step is completed, something is logged, or a loop over items
puts its bindings that was broken off later. -/
inductive Advance (w : Surroundings) (steps : List Step) (cuts : List Each.Cut) (s t : RunState) :
    Prop
  | completed {step : Step} {levels : Nat} {deadlines : List Nat} {result : StepResult}
      (among : Among step steps)
      (run : runWithin levels step { w with deadlines := deadlines } s = (.ok result, t))
  | logged (same : s.context.SameRoots t.context)
  | bound {cut : Each.Cut} {i : Nat} {item : Json} (member : cut ∈ cuts)
      (put : ∃ around, Each.bind cut.itemPath cut.indexPath i item around s = (.ok (), t))

/-- The variables come from others by what happens to them. -/
def Leads (w : Surroundings) (steps : List Step) (cuts : List Each.Cut) :
    RunState → RunState → Prop :=
  ReflTransGen (Advance w steps cuts)

private theorem Leads.mono {w' : Surroundings} {steps' : List Step} {cuts' : List Each.Cut}
    (h : Leads w steps cuts s t)
    (hw : ∀ deadlines, { w with deadlines := deadlines } = { w' with deadlines := deadlines })
    (hsteps : ∀ step, Among step steps → Among step steps') (hcuts : cuts ⊆ cuts') :
    Leads w' steps' cuts' s t := by
  refine ReflTransGen.mono (fun a b advance => ?_) _ _ h
  cases advance with
  | completed among run => exact .completed (hsteps _ among) (hw _ ▸ run)
  | logged same => exact .logged same
  | bound member put => exact .bound (hcuts member) put

private theorem Leads.withCut (h : Leads w steps cuts s t) (cut : Each.Cut) :
    Leads w steps (cut :: cuts) s t :=
  h.mono (fun _ => rfl) (fun _ => id) fun _ => List.mem_cons_of_mem cut

private theorem Leads.under {deadlines : List Nat}
    (h : Leads { w with deadlines := deadlines } steps cuts s t) : Leads w steps cuts s t :=
  h.mono (fun _ => rfl) (fun _ => id) fun _ => id

private theorem Leads.inRest {step : Step} (h : Leads w steps cuts s t) :
    Leads w (step :: steps) cuts s t :=
  h.mono (fun _ => rfl) (fun _ among => among.mono fun _ => List.mem_cons_of_mem step) fun _ => id

private theorem Leads.inEach {frame : StepFrame} {source : Json} {itemKey indexKey : String}
    {rest : List Step} (h : Leads w steps cuts s t) :
    Leads w (.each frame source itemKey indexKey steps :: rest) cuts s t :=
  h.mono (fun _ => rfl) (fun _ => .each List.mem_cons_self) fun _ => id

private theorem Leads.inLoop {frame : StepFrame} {condition : Assertion} {timeout : Json}
    {rest : List Step}
    (h : Leads w steps cuts s t) : Leads w (.loop frame condition timeout steps :: rest) cuts s t :=
  h.mono (fun _ => rfl) (fun _ => .loop List.mem_cons_self) fun _ => id

private theorem leads_logged (h : s.context.SameRoots t.context) :
    Leads w steps cuts s t := .single (.logged h)

private theorem leads_opens {source : Json} {items : List Json}
    (h : Each.Opens w s source items u) :
    Leads w steps cuts s u := by
  obtain ⟨value, lines, -, -, rfl⟩ := h
  exact leads_logged ⟨rfl, rfl⟩

private theorem leads_resolving {α : Type} {r : Scope → Token.Resolution α} {a : α}
    (h : resolving r w s = (.ok a, t)) : Leads w steps cuts s t := by
  obtain ⟨lines, -, rfl⟩ := resolving_eq_ok.mp h
  exact leads_logged ⟨rfl, rfl⟩

private theorem leads_readClock {time : Nat} (h : readClock w s = (.ok time, t)) :
    Leads w steps cuts s t := by
  obtain ⟨-, rfl⟩ := readClock_eq_ok.mp h
  exact leads_logged (.refl _)

private theorem leads_inTurn {deadlines : List Nat} {results : List StepResult}
    (h : inTurn (runWithin levels) steps { w with deadlines := deadlines } s = (.ok results, t)) :
    Leads w steps cuts s t := by
  suffices part : ∀ {inner : List Step} {s t : RunState} {results : List StepResult},
      (∀ step ∈ inner, step ∈ steps) →
        inTurn (runWithin levels) inner { w with deadlines := deadlines } s = (.ok results, t) →
          Leads w steps cuts s t from part (fun _ => id) h
  intro inner
  induction inner with
  | nil =>
    intro s t results _ h
    obtain ⟨-, rfl⟩ := inTurn_nil_eq_ok.mp h
    exact .refl
  | cons step rest ih =>
    intro s t results members h
    obtain ⟨own, others⟩ := List.forall_mem_cons.mp members
    obtain ⟨result, u, results', run, further, -⟩ := inTurn_cons_eq_ok.mp h
    exact .head (.completed (.here own) run) (ih others further)

private theorem leads_start {cut : Each.Cut} (member : cut ∈ cuts) {items : List Json}
    {index i : Nat}
    {start : RunState}
    (h : (Each.starts cut.itemPath cut.indexPath (inTurn (runWithin levels) steps) w index items s)[i]? =
      some start) : Leads w steps cuts s start := by
  induction items generalizing index i s with
  | nil => simp [Each.starts] at h
  | cons item rest ih =>
    rcases hbind : Each.bind cut.itemPath cut.indexPath index item w s with ⟨(e | _), u⟩
    · simp [Each.starts, hbind] at h
    · have put : Advance w steps cuts s u := .bound member ⟨w, hbind⟩
      rw [Each.starts_cons hbind] at h
      cases i with
      | zero =>
        obtain rfl : u = start := by simpa using h
        exact .single put
      | succ i =>
        rcases hbody : inTurn (runWithin levels) steps w u with ⟨(e | results), v⟩
        · simp [hbody] at h
        · have round : Leads w steps cuts u v := leads_inTurn hbody
          exact .head put (round.trans (ih (by simpa [hbody] using h)))

private theorem leads_begun {condition : Assertion} {body : LoopBody} {timeout : Json}
    {L : Loop.Begun}
    {v₀ : RunState} (h : Loop.Begins condition body timeout w s L v₀) : Leads w steps cuts s v₀ := by
  cases h with
  | intro resolved counted read => exact (leads_resolving resolved).trans (leads_readClock read)

private theorem leads_starts {L : Loop.Begun} {v : RunState} (h : L.Starts v u) :
    Leads L.around steps cuts v u := by
  obtain ⟨last, v', checked, -, read, -⟩ := h
  exact (leads_resolving checked).trans (leads_readClock read)

private theorem leads_ran {L : Loop.Begun} {v₀ v : RunState} {rounds : List (List StepResult)}
    (body : L.body = inTurn (runWithin levels) steps) (ran : L.Ran v₀ rounds v) :
    Leads L.around steps cuts v₀ v := by
  induction ran with
  | none => exact .refl
  | next before starts ran undisturbed ih =>
    rw [body] at ran
    exact ih.trans ((leads_starts starts).trans (leads_inTurn ran))

private theorem Halts.leads (h : Halts levels w steps s cuts t) : Leads w steps cuts s t := by
  induction h with
  | later completed halts ih =>
    exact .head (.completed (.here List.mem_cons_self) completed) ih.inRest
  | waiting waits same => exact leads_logged same
  | eachRound opens itemPath indexPath current starts cancelled halts ih =>
    refine Leads.inEach ((leads_opens opens).trans (ReflTransGen.trans ?_ (ih.withCut _)))
    exact leads_start List.mem_cons_self starts
  | loopRound begun ran starts halts ih =>
    obtain ⟨body, rfl, -⟩ := begun.parts
    refine Leads.inLoop ((leads_begun begun).trans ((leads_ran body ran).trans ?_))
    exact (leads_starts starts).trans ih.under
  | loopBetween begun ran starts completed =>
    obtain ⟨body, rfl, -⟩ := begun.parts
    refine Leads.inLoop ((leads_begun begun).trans ((leads_ran body ran).trans ?_))
    exact (leads_starts starts).trans (leads_inTurn completed)

/-- A body that does not write to a place: whatever is there stays, however the body ends. -/
def LeavesAlone (body : LoopBody) (p : Path) : Prop := ∀ v, Keeps (fun c => c.get? p = v) body

/-- A loop over items that was broken off, in whose body nothing writes to its places, leaves them
with the item and the index of its last round. -/
def Lingers (t : RunState) (cut : Each.Cut) : Prop :=
  cut.indexPath.PartAtName cut.itemPath → LeavesAlone cut.body cut.itemPath →
    LeavesAlone cut.body cut.indexPath →
      t.context.get? cut.itemPath = some cut.item ∧ t.context.get? cut.indexPath = some (.nat cut.index)

private theorem Halts.lingers (h : Halts levels w steps s cuts t) :
    ∀ cut ∈ cuts, Lingers t cut := by
  induction h with
  | later completed halts ih => exact ih
  | waiting waits same => simp
  | @eachRound levels n i w frame source item itemKey indexKey steps rest s u start t items P Q cuts opens
      itemPath indexPath current starts cancelled halts ih =>
    rw [List.forall_mem_cons]
    refine ⟨fun parts itemAlone indexAlone => ?_, ih⟩
    obtain ⟨before, item', current', put⟩ := Each.exists_bind_of_start starts
    obtain rfl : item = item' := Option.some.inj (current.symm.trans current')
    obtain ⟨atItem, atIndex⟩ := Each.get?_of_bind parts put
    rw [Nat.zero_add] at atIndex
    exact ⟨(itemAlone _).of_run atItem cancelled, (indexAlone _).of_run atIndex cancelled⟩
  | loopRound begun ran starts halts ih => exact ih
  | loopBetween begun ran starts completed => simp

variable {frame : StepFrame} {condition : Assertion} {timeout : Json} {L : Loop.Begun}
  {v₀ v : RunState} {rounds : List (List StepResult)}

/-- A loop under a condition whose round is broken off at the deadline ends with what the completed
steps of the round left. But each loop over items that was in a round keeps its bindings, as nothing
gives its places back what they held. -/
theorem broken_off_round_leaves
    (begun : Loop.Begins condition (inTurn (runWithin levels) steps) timeout
      w s L v₀) (ran : L.Ran v₀ rounds v) (bounded : rounds.length < w.patience) (starts : L.Starts v u)
    (cancelled : inTurn (runWithin levels) steps L.inside u = (.error (.cancelled 0), t)) :
    (Step.loop frame condition timeout steps).work (inTurn (runWithin levels)) w s =
        (.ok ⟨false, some (Loop.lateness L.timeout rounds.length),
          some (.object [("iterations", .nat rounds.length)]), Loop.shown rounds, .none⟩, t) ∧
      ∃ cuts, Halts levels L.inside steps u cuts t ∧ Leads w steps cuts u t ∧
        ∀ cut ∈ cuts, Lingers t cut := by
  obtain ⟨body, rfl, -⟩ := begun.parts
  obtain ⟨cuts, halts⟩ := exists_halts levels cancelled
  have timely : Timely (inTurn (runWithin levels) steps) :=
    entire_timely.working.inTurn fun step _ => entire_timely.runWithin levels step
  have passed := Loop.Begun.deadline_le_of_come (timely.comes _ _ _ _ cancelled)
  have ends : L.Ends rounds v _ t := .cutOff starts passed (by rwa [body])
  exact ⟨ran.run_eq begun ends bounded, cuts, halts, halts.leads.under, halts.lingers⟩

def dozing : Step := .wait (.saving []) (.nat 60000)

/-- A loop that waits in its first round. -/
def visiting : Step := .each (.saving []) (.array [.nat 7]) "item" "index" [dozing]

/-- A loop that has 20 milliseconds for this one. -/
def hurrying : Step := .loop (.saving []) (isOne (.nat 1)) (.nat 20) [visiting]

private theorem leavesAlone_dozing (levels : Nat) (p : Path) :
    LeavesAlone (inTurn (runWithin levels) [dozing]) p := by
  intro v
  have log : LogBlind fun c => c.get? p = v := fun _ _ => id
  have quiet := quiet_keeps log
  refine quiet.inTurn fun step member => ?_
  obtain rfl := List.mem_singleton.mp member
  cases levels with
  | zero => exact keeps_throw _
  | succ levels =>
    refine quiet.bind (quiet.naming (quiet.wait _ _ _) _) fun outcome => ?_
    · exact (keeps_pure _).bind fun _ => (keeps_pure _).bind fun _ =>
        (keeps_takeLog log).bind fun _ => keeps_pure _

theorem hurrying_leaves : ∃ o t cuts L u,
    hurrying.work (inTurn (runWithin 9)) (.still .empty) .initial = (.ok o, t) ∧
      Halts 9 L [visiting] u cuts t ∧ Leads (.still .empty) [visiting] cuts u t ∧
        ∀ cut ∈ cuts, Lingers t cut := by
  have off : (inTurn (runWithin 9) [visiting]).breaksOff
      { Surroundings.still .empty with deadlines := [21000] }
      { RunState.initial with readings := 2 } = true := by decide +kernel
  obtain ⟨t, cancelled⟩ := cancelled_of_breaksOff off
  have begun : Loop.Begins (isOne (.nat 1)) (inTurn (runWithin 9) [visiting]) (.nat 20) (.still .empty)
      .initial ⟨isOne (.nat 1), inTurn (runWithin 9) [visiting], 20, 0, .still .empty⟩
      { RunState.initial with readings := 1 } :=
    .intro (resolving_eq_ok.mpr ⟨[], rfl, rfl⟩) (by decide +kernel) rfl
  have starts : Loop.Begun.Starts ⟨isOne (.nat 1), inTurn (runWithin 9) [visiting], 20, 0, .still .empty⟩
      { RunState.initial with readings := 1 } { RunState.initial with readings := 2 } :=
    ⟨(isOne (.nat 1)).finding (.nat 1) (.nat 1), _, resolving_eq_ok.mpr ⟨[], rfl, rfl⟩,
      by decide +kernel, rfl, by decide⟩
  obtain ⟨ended, cuts, left⟩ :=
    broken_off_round_leaves begun .none (by decide) starts cancelled
  exact ⟨_, t, cuts, _, _, ended, left⟩

private def isCount (n : Nat) : Option Json → Bool
  | some (.number (.int i)) => i == n
  | _ => false

private theorem eq_of_isCount {n : Nat} {v : Option Json} (h : isCount n v = true) :
    v = some (.nat n) := by
  unfold isCount at h
  split at h
  · rw [eq_of_beq h]
    rfl
  · cases h

/-- The bindings of the loop that is broken off are still there when the loop around has ended,
although its body writes nothing and they were not there before. -/
theorem bindings_outlive_hurrying :
    (∀ p, LeavesAlone (inTurn (runWithin 8) [dozing]) p) ∧
      RunState.initial.context.get? (.child Context.ctxRoot "item") = none ∧
      RunState.initial.context.get? (.child Context.ctxRoot "index") = none ∧
      ∃ results t, runAll [hurrying] (.still .empty) .initial = (.ok results, t) ∧
        t.context.get? (.child Context.ctxRoot "item") = some (.nat 7) ∧
        t.context.get? (.child Context.ctxRoot "index") = some (.nat 0) := by
  have outlived : (runAll [hurrying]).endsIn
      (fun t => isCount 7 (t.context.get? (.child Context.ctxRoot "item")) &&
        isCount 0 (t.context.get? (.child Context.ctxRoot "index")))
      (.still .empty) .initial = true := by decide +kernel
  have completes : (runAll [hurrying]).yields (fun _ => true) (.still .empty) .initial = true := by
    decide +kernel
  obtain ⟨r, t, run, -, reads⟩ := exists_of_endsIn outlived
  obtain ⟨results, u, completed, -⟩ := exists_of_yields completes
  cases completed.symm.trans run
  rw [Bool.and_eq_true] at reads
  exact ⟨leavesAlone_dozing 8, rfl, rfl, results, t, completed, eq_of_isCount reads.1,
    eq_of_isCount reads.2⟩

end Step

end Assay
