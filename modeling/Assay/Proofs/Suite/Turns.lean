/- digest: The run of one file among others, turn by turn: it asks what it would ask alone, ends as
   it would end alone on the same answers, and asks only so many times. -/

import Mathlib.Order.WellFounded
import Assay.Proofs.Exec.Causality
import Assay.Proofs.Exec.Deadline
import Assay.Proofs.Exec.Lasting
import Assay.Proofs.Suite.Accounting
import Assay.Run.Parallel

set_option autoImplicit false
set_option relaxedAutoImplicit false

namespace Assay

open Exec

namespace Http

variable {transport : Transport} {sent before : List Request} {answers : List Answer} {request : Request}

private theorem Transport.after_of_getElem? {answer : Answer}
    (h : answers[before.length]? = some answer) :
    transport.after sent answers before request = answer := by
  simp [after, h]

private theorem Transport.after_of_length_le (h : answers.length ≤ before.length) :
    transport.after sent answers before request =
      transport (sent ++ before.drop answers.length) request := by
  simp [after, h]

end Http

private def Step.isAlone : Step → Bool
  | .each _ _ _ _ _ | .loop _ _ _ _ | .use _ _ _ => false
  | _ => true

namespace Runner

variable {r : Runner} {path : String} {timing : Timing} {w : Surroundings}
  {transport other : Http.Transport} {answers : List Http.Answer}

private theorem sent_runAside_congr {n : Nat}
    (h : ∀ before request, before.length < n → transport before request = other before request) :
    (r.runAside path timing transport w).2.sent[n]? =
      (r.runAside path timing other w).2.sent[n]? := by
  let around : Surroundings :=
    { w with
      transport := transport, pace := timing.pace, latency := timing.latency, deadlines := [] }
  exact (entire_causal.file r path).sent_congr (w := around) (s := ⟨.empty, timing.start, 0, []⟩) h

theorem runAside_congr
    (h : ∀ before request,
      before ++ [request] <+: (r.runAside path timing transport w).2.sent →
        transport before request = other before request) :
    r.runAside path timing transport w = r.runAside path timing other w := by
  let around : Surroundings :=
    { w with
      transport := transport, pace := timing.pace, latency := timing.latency, deadlines := [] }
  exact (entire_causal.file r path).run_congr (w := around) (s := ⟨.empty, timing.start, 0, []⟩) h

/-- A transport gives some answers to the first requests, whatever they are. -/
private def Begins (transport : Http.Transport) (answers : List Http.Answer) : Prop :=
  ∀ before request answer, answers[before.length]? = some answer → transport before request = answer

private theorem nextRequest?_eq (h : Begins transport answers) :
    r.nextRequest? path timing answers w =
      (r.runAside path timing transport w).2.sent[answers.length]? := by
  refine sent_runAside_congr fun before request hbefore => ?_
  have given : answers[before.length]? = some answers[before.length] :=
    List.getElem?_eq_getElem hbefore
  rw [Http.Transport.after_of_getElem? given, h before request _ given]

/-- Answers to the first requests of a suite: each is what the shared transport gave for the request
that came next, after whatever requests. -/
inductive Asked (r : Runner) (path : String) (timing : Timing) (w : Surroundings) :
    List Http.Answer → Prop
  | nil : Asked r path timing w []
  | ask {answers : List Http.Answer} {request : Http.Request} (before : List Http.Request)
    (h : Asked r path timing w answers) (hnext : r.nextRequest? path timing answers w = some request) :
    Asked r path timing w (answers ++ [w.transport before request])

private theorem Asked.answered (h : r.Asked path timing w answers)
    (hbegins : Begins transport answers)
    {i : Nat} {answer : Http.Answer} (hi : answers[i]? = some answer) :
    ∃ request before, (r.runAside path timing transport w).2.sent[i]? = some request ∧
      answer = w.transport before request := by
  induction h with
  | nil => cases hi
  | @ask answers request before h hnext ih =>
    have earlier : Begins transport answers := by
      intro sent asked given hgiven
      refine hbegins sent asked given ?_
      obtain ⟨short, -⟩ := List.getElem?_eq_some_iff.mp hgiven
      rw [List.getElem?_append_left short, hgiven]
    rcases Nat.lt_trichotomy i answers.length with short | rfl | long
    · rw [List.getElem?_append_left short] at hi
      exact ih earlier hi
    · rw [List.getElem?_append_right le_rfl, Nat.sub_self] at hi
      cases hi
      exact ⟨request, before, (nextRequest?_eq earlier).symm.trans hnext, rfl⟩
    · have outside : (answers ++ [w.transport before request]).length ≤ i := by
        rw [List.length_append, List.length_singleton]
        omega
      rw [List.getElem?_eq_none outside] at hi
      cases hi

/-- A transport answers each request of a file's run as the shared one does after some requests. -/
def Shares (r : Runner) (path : String) (timing : Timing) (w : Surroundings)
    (transport : Http.Transport) : Prop :=
  ∀ before request, before ++ [request] <+: (r.runAside path timing transport w).2.sent →
    ∃ sent, transport before request = w.transport sent request

theorem Asked.shares (h : r.Asked path timing w answers) (sent : List Http.Request) :
    r.Shares path timing w (w.transport.after sent answers) := by
  intro before request hprefix
  have begins : Begins (w.transport.after sent answers) answers :=
    fun _ _ _ given => Http.Transport.after_of_getElem? given
  rcases Nat.lt_or_ge before.length answers.length with short | long
  · have given : answers[before.length]? = some answers[before.length] :=
      List.getElem?_eq_getElem short
    obtain ⟨asked, earlier, hasked, hanswer⟩ := h.answered begins given
    have same : asked = request := by
      have own := List.prefix_iff_getElem?.mp hprefix before.length (by simp)
      rw [hasked] at own
      simpa using own
    refine ⟨earlier, ?_⟩
    rw [Http.Transport.after_of_getElem? given, hanswer, same]
  · exact ⟨_, Http.Transport.after_of_length_le long⟩

/-- The result that a run of a file leaves: that of its suite, or a failed one that tells of the
breakdown. -/
inductive Leaves (r : Runner) (path : String) (timing : Timing) (w : Surroundings)
    (transport : Http.Transport) : SuiteResult → Prop
  | completed {result : SuiteResult} {t : RunState}
    (hrun : r.runAside path timing transport w = (.ok result, t)) :
    Leaves r path timing w transport result
  | brokeDown {text : String} {t : RunState}
    (hrun : r.runAside path timing transport w = (.error (.breakdown text), t)) :
    Leaves r path timing w transport
      (.failed (nameOfFile path) (some path) ("suite task failed: panicked: " ++ text))

/-- The runs of a file come to an end, on any transport. -/
def Ends (r : Runner) (path : String) (w : Surroundings) : Prop :=
  ∀ timing transport t, r.runAside path timing transport w ≠ (.error .exhausted, t)

private theorem gives_runFile_file : Gives (fun result => result.file = some path)
    (r.runFile path) := by
  refine gives_bind fun s => ?_
  split
  · exact gives_pure rfl
  · refine gives_bind fun result => ?_
    split
    · exact gives_pure rfl
    · exact gives_pure rfl

theorem Leaves.file {result : SuiteResult} (h : r.Leaves path timing w transport result) :
    result.file = some path := by
  cases h with
  | completed hrun => exact gives_runFile_file _ _ _ _ hrun
  | brokeDown hrun => rfl

private theorem faultless_runFile : Faultless (r.runFile path) := by
  refine (faultless_attempt _).bind fun s => ?_
  split
  · exact faultless_pure _
  · refine (faultless_attempt _).bind fun result => ?_
    split
    · exact faultless_pure _
    · exact faultless_pure _

theorem Ends.leaves (hends : r.Ends path w) (timing : Timing) (transport : Http.Transport) :
    ∃ result, r.Leaves path timing w transport result := by
  rcases hrun : r.runAside path timing transport w with ⟨(e | result), t⟩
  · cases e with
    | fault f => exact absurd hrun (faultless_runFile _ _ t f)
    | breakdown text => exact ⟨_, .brokeDown hrun⟩
    | cancelled n =>
      exact absurd ((entire_timely.file r path).cancelledAround _ _ n t hrun) (Nat.not_lt_zero n)
    | exhausted => exact absurd hrun (hends _ _ t)
  · exact ⟨result, .completed hrun⟩

theorem Leaves.unique {result result' : SuiteResult} (h : r.Leaves path timing w transport result)
    (h' : r.Leaves path timing w transport result') : result = result' := by
  cases h with
  | completed hrun =>
    cases h' with
    | completed hrun' =>
      cases hrun.symm.trans hrun'
      rfl
    | brokeDown hrun' => cases hrun.symm.trans hrun'
  | brokeDown hrun =>
    cases h' with
    | completed hrun' => cases hrun.symm.trans hrun'
    | brokeDown hrun' =>
      cases hrun.symm.trans hrun'
      rfl

/-- To conclude the run of a file always gives an outcome, and the one that its run has on the
answers so far and those that the shared transport gives from now on. -/
theorem conclude_run (hends : r.Ends path w) (timing : Timing) (answers : List Http.Answer)
    (s : RunState) : ∃ outcome t, r.conclude path timing answers w s = (.ok outcome, t) ∧
      r.Leaves path timing w (w.transport.after s.sent answers) (closing path outcome) := by
  obtain ⟨result, leaves⟩ := hends.leaves timing (w.transport.after s.sent answers)
  cases leaves with
  | completed hrun => exact ⟨.ok result, _, by simp only [conclude, hrun]; rfl, .completed hrun⟩
  | brokeDown hrun => exact ⟨.error _, _, by simp only [conclude, hrun]; rfl, .brokeDown hrun⟩

/-- What a move does to the run of a file, if the move is open to it: its stage before and after,
and the results that are taken over. -/
inductive Advances (r : Runner) (w : Surroundings) (s : RunState) (room : Prop) (path : String) :
    FileMove → Stage → Stage → List SuiteResult → Prop
  | begin {timing : Timing} (h : room) :
    Advances r w s room path (.begin timing) .waiting (.underWay timing []) []
  | ask {timing : Timing} {answers : List Http.Answer} {request : Http.Request}
    (h : r.nextRequest? path timing answers w = some request) :
    Advances r w s room path .ask (.underWay timing answers)
      (.underWay timing (answers ++ [w.transport s.sent request])) []
  | finish {timing : Timing} {answers : List Http.Answer} {outcome : Except String SuiteResult}
    {t : RunState} (h : r.conclude path timing answers w s = (.ok outcome, t)) :
    Advances r w s room path .finish (.underWay timing answers) (.ended outcome) []
  | release {outcome : Except String SuiteResult} :
    Advances r w s room path .release (.ended outcome) (.done (closing path outcome)) []
  | collect {result : SuiteResult} :
    Advances r w s room path .collect (.done result) .collected [result]

private theorem askShared_run (request : Http.Request) (w : Surroundings) (s : RunState) :
    askShared request w s =
      (.ok (w.transport s.sent request), { s with sent := s.sent ++ [request] }) := rfl

/-- A turn changes nothing, or its move is open to the run of its file. -/
theorem turn_eq_ok {p p' : Pool} {turn : Turn} {s t : RunState}
    (h : r.turn p turn w s = (.ok p', t)) :
    p' = p ∨ ∃ path stage stage' results, p.runs[turn.place]? = some ⟨path, stage⟩ ∧
      r.Advances w s (p.held < p.permits) path turn.move stage stage' results ∧
      p' = { p.put turn.place path stage' with results := p.results ++ results } := by
  obtain ⟨place, move⟩ := turn
  rcases hrun : p.runs[place]? with _ | ⟨path, stage⟩
  · simp only [turn, hrun] at h
    exact Or.inl (pure_eq_ok.mp h).1.symm
  · simp only [turn, hrun] at h
    cases move with
    | begin timing =>
      cases stage with
      | waiting =>
        obtain ⟨rfl, -⟩ := pure_eq_ok.mp h
        split
        · rename_i room
          exact Or.inr ⟨path, _, _, [], rfl, .begin room, by rw [List.append_nil]; rfl⟩
        · exact Or.inl rfl
      | underWay _ _ | ended _ | done _ | collected => exact Or.inl (pure_eq_ok.mp h).1.symm
    | ask =>
      cases stage with
      | underWay timing answers =>
        dsimp only at h
        rw [bind_of_ok (surroundings_run w s)] at h
        rcases hnext : r.nextRequest? path timing answers w with _ | request
        · simp only [hnext] at h
          exact Or.inl (pure_eq_ok.mp h).1.symm
        · simp only [hnext] at h
          rw [bind_of_ok (askShared_run request w s)] at h
          obtain ⟨rfl, -⟩ := pure_eq_ok.mp h
          exact Or.inr ⟨path, _, _, [], rfl, .ask hnext, by rw [List.append_nil]; rfl⟩
      | waiting | ended _ | done _ | collected => exact Or.inl (pure_eq_ok.mp h).1.symm
    | finish =>
      cases stage with
      | underWay timing answers =>
        obtain ⟨outcome, u, hconclude, h⟩ := bind_eq_ok.mp h
        obtain ⟨rfl, -⟩ := pure_eq_ok.mp h
        exact Or.inr ⟨path, _, _, [], rfl, .finish hconclude, by rw [List.append_nil]; rfl⟩
      | waiting | ended _ | done _ | collected => exact Or.inl (pure_eq_ok.mp h).1.symm
    | release =>
      cases stage with
      | ended outcome =>
        obtain ⟨rfl, -⟩ := pure_eq_ok.mp h
        exact Or.inr ⟨path, _, _, [], rfl, .release, by rw [List.append_nil]; rfl⟩
      | waiting | underWay _ _ | done _ | collected => exact Or.inl (pure_eq_ok.mp h).1.symm
    | collect =>
      cases stage with
      | done result =>
        obtain ⟨rfl, -⟩ := pure_eq_ok.mp h
        exact Or.inr ⟨path, _, _, [result], rfl, .collect, rfl⟩
      | waiting | underWay _ _ | ended _ | collected => exact Or.inl (pure_eq_ok.mp h).1.symm

theorem turn_of_advances {p : Pool} {place : Nat} {path : String} {move : FileMove}
    {stage stage' : Stage} {results : List SuiteResult} {s : RunState}
    (hrun : p.runs[place]? = some ⟨path, stage⟩)
    (h : r.Advances w s (p.held < p.permits) path move stage stage' results) :
    ∃ t, r.turn p ⟨place, move⟩ w s =
      (.ok { p.put place path stage' with results := p.results ++ results }, t) := by
  cases h with
  | begin room => exact ⟨s, by simp [turn, hrun, room]; rfl⟩
  | @ask timing answers request hnext =>
    refine ⟨{ s with sent := s.sent ++ [request] }, ?_⟩
    simp only [turn, hrun, List.append_nil]
    rw [bind_of_ok (surroundings_run w s)]
    simp only [hnext]
    rw [bind_of_ok (askShared_run request w s)]
    rfl
  | @finish timing answers outcome t hconclude =>
    refine ⟨t, ?_⟩
    simp only [turn, hrun, List.append_nil]
    rw [bind_of_ok hconclude]
    rfl
  | release => exact ⟨s, by simp [turn, hrun]; rfl⟩
  | collect => exact ⟨s, by simp [turn, hrun]⟩

theorem Advances.ne {s : RunState} {room : Prop} {move : FileMove} {stage stage' : Stage}
    {results : List SuiteResult} (h : r.Advances w s room path move stage stage' results) :
    stage' ≠ stage := by
  cases h with
  | begin _ | finish _ | release | collect => simp
  | ask _ => simp

theorem turn_completes {p : Pool} (hends : ∀ run ∈ p.runs, r.Ends run.path w) (turn : Turn)
    (s : RunState) : ∃ p' t, r.turn p turn w s = (.ok p', t) := by
  obtain ⟨place, move⟩ := turn
  rcases hrun : p.runs[place]? with _ | ⟨path, stage⟩
  · refine ⟨p, s, ?_⟩
    simp only [turn, hrun, pure_run]
  · have own : r.Ends path w := hends ⟨path, stage⟩ (List.mem_of_getElem? hrun)
    simp only [turn, hrun]
    cases move with
    | begin _ | release | collect =>
      cases stage with
      | waiting | underWay _ _ | ended _ | done _ | collected => exact ⟨_, _, rfl⟩
    | ask =>
      cases stage with
      | underWay timing answers =>
        dsimp only
        rw [bind_of_ok (surroundings_run w s)]
        rcases r.nextRequest? path timing answers w with _ | request
        · exact ⟨p, s, rfl⟩
        · exact ⟨_, _, bind_of_ok (askShared_run request w s)⟩
      | waiting | ended _ | done _ | collected => exact ⟨_, _, rfl⟩
    | finish =>
      cases stage with
      | underWay timing answers =>
        obtain ⟨outcome, t, hconclude, -⟩ := conclude_run own timing answers s
        exact ⟨_, t, bind_of_ok hconclude⟩
      | waiting | ended _ | done _ | collected => exact ⟨_, _, rfl⟩

/-- The files in which a suite looks for others, and room for steps. -/
private def Roomy (files : FileTree) (w : Surroundings) : Prop := 0 < w.depth ∧ w.files = files

private theorem ranging_lasting (files : FileTree) :
    Ranging fun _ x => Lasting (Roomy files) x where
  toOrdinary := ordinary_lasting _
  amid C folder hx := fun w s hw => hx { w with templates := C, folder := folder } s hw

private theorem lasting_run_of_isAlone {files : FileTree} {step : Step} (h : step.isAlone = true) :
    Lasting (Roomy files) step.run := by
  have ordinary := ordinary_lasting (Roomy files)
  refine lasting_surroundings_bind fun w hw => ?_
  obtain ⟨levels, hlevels⟩ : ∃ levels, w.depth = levels + 1 := ⟨w.depth - 1, by have := hw.1; omega⟩
  rw [hlevels]
  refine Lasting.bind (ordinary.working.naming ?_ _) fun o => ordinary.nested.complete step.frame o
  cases step with
  | wait frame duration => exact ordinary.working.wait _ frame duration
  | check frame => exact ordinary.pure _
  | request frame call => exact ordinary.working.call call
  | foreign frame work => exact ordinary.foreign work
  | each _ _ _ _ _ | loop _ _ _ _ | use _ _ _ => cases h

private theorem readSuite_eq_ok {s t : RunState} {suite : Suite}
    (h : r.readSuite path w s = (.ok suite, t)) :
    ∃ text, w.files.readText path = .ok text ∧
      Document.ofText (Suite.shape r.vocabulary).read text = .ok suite := by
  obtain ⟨text, u, htext, hsuite⟩ := bind_eq_ok.mp h
  have read := naming_eq_ok.mp htext
  have parsed := naming_eq_ok.mp hsuite
  refine ⟨text, ?_, ?_⟩
  · rw [readTextFile, bind_of_ok (surroundings_run w s)] at read
    rcases hfile : w.files.readText path with e | content
    · simp only [hfile] at read
      exact absurd read fault_ne_ok
    · simp only [hfile] at read
      rw [(pure_eq_ok.mp read).1]
  · unfold Exec.ofText at parsed
    rcases hdocument : Document.ofText (Suite.shape r.vocabulary).read text with e | value
    · simp only [hdocument] at parsed
      exact absurd parsed fault_ne_ok
    · simp only [hdocument] at parsed
      rw [(pure_eq_ok.mp parsed).1]

/-- Whether no step of the suite in a file has steps inside. -/
def isAlone (r : Runner) (files : FileTree) (path : String) : Bool :=
  match files.readText path with
  | .error _ => true
  | .ok text =>
    match Document.ofText (Suite.shape r.vocabulary).read text with
    | .error _ => true
    | .ok suite => (r.selected suite).all fun c => c.steps.all Step.isAlone

theorem ends_of_isAlone (hdepth : 0 < w.depth) (h : r.isAlone w.files path = true) :
    r.Ends path w := by
  have ranging := ranging_lasting w.files
  have lasting : Lasting (Roomy w.files) (r.runFile path) := by
    refine (ranging.attempt (ranging.readSuite r path)).bind_of_ok fun read w' s u hw hread => ?_
    rcases attempt_eq_ok.mp hread with ⟨suite, rfl, hsuite⟩ | ⟨f, rfl, -⟩
    · obtain ⟨text, htext, hparsed⟩ := readSuite_eq_ok hsuite
      simp only [isAlone, ← hw.2, htext, hparsed, List.all_eq_true] at h
      have steps : ∀ c ∈ r.selected suite, ∀ step ∈ c.steps, Lasting (Roomy w.files) step.run :=
        fun c hc step hstep => lasting_run_of_isAlone (h c hc step hstep)
      refine Lasting.bind (ranging.suite steps _).attempt fun result => ?_
      cases result with
      | ok result => exact ranging.pure _
      | error f => exact ranging.pure _
    · exact ranging.pure _
  intro timing transport t hrun
  let around : Surroundings :=
    { w with
      transport := transport, pace := timing.pace, latency := timing.latency, deadlines := [] }
  exact lasting around ⟨.empty, timing.start, 0, []⟩ ⟨hdepth, rfl⟩ ⟨.exhausted, t, rfl, hrun⟩

/-- The run of a file gets from the second stage to the first. -/
def Later (r : Runner) (w : Surroundings) (path : String) (stage' stage : Stage) : Prop :=
  ∃ s room move results, r.Advances w s room path move stage stage' results

/-- One answer more, to a request that a suite sends. -/
private def AskedMore (r : Runner) (path : String) (timing : Timing) (w : Surroundings)
    (later earlier : List Http.Answer) : Prop :=
  ∃ answer, later = earlier ++ [answer] ∧ (r.nextRequest? path timing earlier w).isSome

private theorem getElem?_of_isPrefix {α : Type} {l m : List α} (h : l <+: m) {i : Nat} {a : α}
    (hi : l[i]? = some a) : m[i]? = some a := by
  obtain ⟨rest, rfl⟩ := h
  obtain ⟨short, -⟩ := List.getElem?_eq_some_iff.mp hi
  rw [List.getElem?_append_left short, hi]

private theorem wellFounded_askedMore : WellFounded (r.AskedMore path timing w) := by
  rw [wellFounded_iff_isEmpty_descending_chain]
  refine ⟨fun ⟨asked, more⟩ => ?_⟩
  have grows (n : Nat) : asked n <+: asked (n + 1) := by
    obtain ⟨answer, equal, -⟩ := more n
    exact equal ▸ List.prefix_append _ _
  have long (n : Nat) : n ≤ (asked n).length := by
    induction n with
    | zero => exact Nat.zero_le _
    | succ n ih =>
      obtain ⟨answer, equal, -⟩ := more n
      rw [equal, List.length_append, List.length_singleton]
      omega
  have stays {m n : Nat} (h : m ≤ n) : asked m <+: asked n := by
    induction n, h using Nat.le_induction with
    | base => exact List.prefix_rfl
    | succ n _ ih => exact ih.trans (grows n)
  let transport : Http.Transport := fun before _ =>
    ((asked (before.length + 1))[before.length]?).getD (.error "")
  have begins (n : Nat) : Begins transport (asked n) := by
    intro before request answer given
    have known : (asked (before.length + 1))[before.length]? = some answer := by
      rcases Nat.le_total n (before.length + 1) with early | late
      · exact getElem?_of_isPrefix (stays early) given
      · have short : before.length < (asked (before.length + 1)).length := long _
        have later := getElem?_of_isPrefix (stays late) (List.getElem?_eq_getElem short)
        rw [List.getElem?_eq_getElem short, ← later, given]
    simp only [transport, known, Option.getD_some]
  let sent := (r.runAside path timing transport w).2.sent
  obtain ⟨-, -, some⟩ := more sent.length
  rw [nextRequest?_eq (begins _), List.getElem?_eq_none (long _)] at some
  cases some

theorem wellFounded_later : WellFounded (r.Later w path) := by
  have collected : Acc (r.Later w path) .collected := by
    refine ⟨_, fun stage later => ?_⟩
    obtain ⟨s, room, move, results, advances⟩ := later
    cases advances
  have done (result : SuiteResult) : Acc (r.Later w path) (.done result) := by
    refine ⟨_, fun stage later => ?_⟩
    obtain ⟨s, room, move, results, advances⟩ := later
    cases advances with
    | collect => exact collected
  have ended (outcome : Except String SuiteResult) : Acc (r.Later w path) (.ended outcome) := by
    refine ⟨_, fun stage later => ?_⟩
    obtain ⟨s, room, move, results, advances⟩ := later
    cases advances with
    | release => exact done _
  have underWay (timing : Timing) (answers : List Http.Answer) :
      Acc (r.Later w path) (.underWay timing answers) := by
    have asks : WellFounded (r.AskedMore path timing w) := wellFounded_askedMore
    induction answers using asks.induction with
    | _ answers ih =>
      refine ⟨_, fun stage later => ?_⟩
      obtain ⟨s, room, move, results, advances⟩ := later
      cases advances with
      | ask hnext => exact ih _ ⟨_, rfl, by rw [hnext]; rfl⟩
      | finish hconclude => exact ended _
  refine ⟨fun stage => ?_⟩
  cases stage with
  | waiting =>
    refine ⟨_, fun stage later => ?_⟩
    obtain ⟨s, room, move, results, advances⟩ := later
    cases advances with
    | begin room => exact underWay _ _
  | underWay timing answers => exact underWay timing answers
  | ended outcome => exact ended outcome
  | done result => exact done result
  | collected => exact collected

end Runner

end Assay
