/- digest: Suites of files in parallel: in whatever order their runs take turns, every file leaves
   one result, that of its own run, and never do more suites run at a time than are permitted. -/

import Mathlib.Data.List.ReduceOption
import Mathlib.Data.Multiset.Basic
import Mathlib.Data.Set.List
import Mathlib.Logic.Hydra
import Assay.Proofs.Suite.Turns

set_option autoImplicit false
set_option relaxedAutoImplicit false

namespace Assay

open Exec

private theorem perm_cons_set {α : Type} {l : List α} {i : Nat} {a : α} (h : l[i]? = some a)
    (b : α) :
    (a :: l.set i b).Perm (b :: l) := by
  obtain ⟨short, rfl⟩ := List.getElem?_eq_some_iff.mp h
  calc l[i] :: l.set i b
    _ |>.Perm (l[i] :: b :: l.eraseIdx i) := (List.set_perm_cons_eraseIdx short b).cons _
    _ |>.Perm (b :: l[i] :: l.eraseIdx i) := .swap _ _ _
    _ |>.Perm (b :: l) := (List.getElem_cons_eraseIdx_perm short).cons _

namespace Runner

variable {r : Runner} {w : Surroundings} {path : String}

/-- A result is the one of the file's own run, which began with a timing of some kind, on a
transport that answers as the shared one does. -/
def Owes (r : Runner) (path : String) (w : Surroundings) (begun : Timing → Prop)
    (result : SuiteResult) : Prop :=
  ∃ timing transport, begun timing ∧ r.Shares path timing w transport ∧
    r.Leaves path timing w transport result

end Runner

/-- How far a file has got accounts for the result that was taken over from it, or that it owes. -/
inductive Stage.Accounts (r : Runner) (path : String) (w : Surroundings) (begun : Timing → Prop) :
    Stage → Option SuiteResult → Prop
  | waiting : Accounts r path w begun .waiting none
  | underWay {timing : Timing} {answers : List Http.Answer} (hbegun : begun timing)
    (hasked : r.Asked path timing w answers) : Accounts r path w begun (.underWay timing answers) none
  | ended {outcome : Except String SuiteResult}
    (howes : r.Owes path w begun (Runner.closing path outcome)) :
    Accounts r path w begun (.ended outcome) none
  | done {result : SuiteResult} (howes : r.Owes path w begun result) :
    Accounts r path w begun (.done result) none
  | collected {result : SuiteResult} (howes : r.Owes path w begun result) :
    Accounts r path w begun .collected (some result)

namespace Pool

variable {r : Runner} {w : Surroundings} {begun : Nat → Timing → Prop} {p p' : Pool} {s t : RunState}

def IsComplete (p : Pool) : Prop := ∀ run ∈ p.runs, run.stage = .collected

private def paths (p : Pool) : List String := p.runs.map (·.path)

/-- The results of a pool are those that were taken over from its files, and each file accounts for
its own. -/
structure Accounts (r : Runner) (w : Surroundings) (begun : Nat → Timing → Prop) (p : Pool)
    (taken : List (Option SuiteResult)) : Prop where
  length : taken.length = p.runs.length
  each : ∀ (place : Nat) (run : FileRun) (result : Option SuiteResult), p.runs[place]? = some run →
    taken[place]? = some result → run.stage.Accounts r run.path w (begun place) result
  results : p.results.Perm taken.reduceOption

private theorem held_put {place : Nat} {run : FileRun} (h : p.runs[place]? = some run)
    (path : String)
    (stage : Stage) :
    (p.put place path stage).held + (if run.stage.holds then 1 else 0) =
      p.held + (if stage.holds then 1 else 0) := by
  have moved := (perm_cons_set h ⟨path, stage⟩).filter fun run => run.stage.holds
  have lengths := moved.length_eq
  simp only [List.filter_cons] at lengths
  simp only [held, put]
  split at lengths
  all_goals
    split at lengths
    all_goals simp_all

private theorem held_of_turn {turn : Turn} (h : r.turn p turn w s = (.ok p', t))
    (hheld : p.held ≤ p.permits) :
    p'.permits = p.permits ∧ p'.held ≤ p.permits := by
  obtain ⟨place, move⟩ := turn
  rcases Runner.turn_eq_ok h with rfl | ⟨path, stage, stage', results, hrun, advances, rfl⟩
  · exact ⟨rfl, hheld⟩
  · refine ⟨rfl, ?_⟩
    have moved := held_put hrun path stage'
    change (p.put place path stage').held ≤ p.permits
    dsimp only at advances
    cases advances with
    | begin room =>
      simp [Stage.holds] at moved
      omega
    | ask _ | finish _ | release | collect =>
      simp [Stage.holds] at moved
      omega

private theorem paths_of_turn {turn : Turn} (h : r.turn p turn w s = (.ok p', t)) :
    p'.paths = p.paths := by
  rcases Runner.turn_eq_ok h with rfl | ⟨path, stage, stage', results, hrun, -, rfl⟩
  · rfl
  · have own : p.paths[turn.place]? = some path := by rw [paths, List.getElem?_map, hrun]; rfl
    obtain ⟨short, hat⟩ := List.getElem?_eq_some_iff.mp own
    change (p.runs.set turn.place ⟨path, stage'⟩).map (·.path) = p.paths
    rw [List.map_set, ← hat]
    exact List.set_getElem_self short

private theorem Accounts.put {taken : List (Option SuiteResult)} (h : p.Accounts r w begun taken)
    {place : Nat}
    (short : place < p.runs.length) {path : String} {stage : Stage} {result : Option SuiteResult}
    {results : List SuiteResult} (new : stage.Accounts r path w (begun place) result)
    (hresults : (p.results ++ results).Perm (taken.set place result).reduceOption) :
    ({ p.put place path stage with results := p.results ++ results } : Pool).Accounts r w begun
      (taken.set place result) := by
  refine ⟨by simp [Pool.put, h.length], fun i run given hi hgiven => ?_, hresults⟩
  simp only [Pool.put, List.getElem?_set] at hi hgiven
  by_cases here : place = i
  · subst here
    rw [if_pos rfl, if_pos short, Option.some.injEq] at hi
    rw [if_pos rfl, if_pos (h.length ▸ short), Option.some.injEq] at hgiven
    subst hi hgiven
    exact new
  · simp only [here, if_false] at hi hgiven
    exact h.each i run given hi hgiven

private theorem Accounts.turn {taken : List (Option SuiteResult)} (h : p.Accounts r w begun taken)
    (hends : ∀ run ∈ p.runs, r.Ends run.path w) {turn : Turn}
    (hbegun : ∀ timing, turn.move = .begin timing → begun turn.place timing)
    (hturn : r.turn p turn w s = (.ok p', t)) : ∃ taken', p'.Accounts r w begun taken' := by
  obtain ⟨place, move⟩ := turn
  rcases Runner.turn_eq_ok hturn with rfl | ⟨path, stage, stage', results, hrun, advances, rfl⟩
  · exact ⟨taken, h⟩
  · dsimp only at hrun advances hbegun
    obtain ⟨short, -⟩ := List.getElem?_eq_some_iff.mp hrun
    obtain ⟨result, hresult⟩ : ∃ result, taken[place]? = some result :=
      ⟨_, List.getElem?_eq_getElem (h.length ▸ short)⟩
    have own := h.each place ⟨path, stage⟩ result hrun hresult
    have kept (new : stage'.Accounts r path w (begun place) result) (none : results = []) :
        ∃ taken', ({ p.put place path stage' with results := p.results ++ results } : Pool).Accounts
          r w begun taken' := by
      refine ⟨_, h.put short new ?_⟩
      obtain ⟨-, rfl⟩ := List.getElem?_eq_some_iff.mp hresult
      rw [none, List.append_nil, List.set_getElem_self]
      exact h.results
    have ends : r.Ends path w := hends ⟨path, stage⟩ (List.mem_of_getElem? hrun)
    cases advances with
    | begin room =>
      cases own
      exact kept (.underWay (hbegun _ rfl) .nil) rfl
    | ask hnext =>
      cases own with
      | underWay hbegun hasked => exact kept (.underWay hbegun (.ask s.sent hasked hnext)) rfl
    | @finish timing answers outcome u hconclude =>
      cases own with
      | underWay hbegun hasked =>
        obtain ⟨outcome', u', hconclude', leaves⟩ := Runner.conclude_run ends timing answers s
        obtain ⟨rfl, -⟩ := end_ok_inj.mp (hconclude'.symm.trans hconclude)
        have owes : r.Owes path w (begun place) (Runner.closing path outcome') :=
          ⟨timing, w.transport.after s.sent answers, hbegun, hasked.shares s.sent, leaves⟩
        exact kept (.ended owes) rfl
    | release =>
      cases own with
      | ended howes => exact kept (.done howes) rfl
    | @collect result =>
      cases own with
      | done howes =>
        refine ⟨_, h.put short (.collected howes) ?_⟩
        have moved := (perm_cons_set hresult (some result)).filterMap id
        simp only [List.filterMap_cons, id_eq] at moved
        exact (h.results.append_right [result]).trans
          ((List.perm_append_singleton result _).trans moved.symm)

/-- What is true of a pool at every moment. -/
structure Sound (r : Runner) (w : Surroundings) (begun : Nat → Timing → Prop) (paths : List String)
    (permits : Nat) (p : Pool) : Prop where
  files : p.paths = paths
  limit : p.permits = permits
  held : p.held ≤ permits
  accounts : ∃ taken, p.Accounts r w begun taken

private theorem held_ofFiles (paths : List String) (limit : Nat) :
    (ofFiles paths limit).held = 0 := by
  simp [held, ofFiles, List.filter_map, Function.comp_def, Stage.holds]

private theorem sound_ofFiles (paths : List String) (limit : Nat) :
    (ofFiles paths limit).Sound r w begun paths (max 1 limit) where
  files := by simp [Pool.paths, ofFiles, Function.comp_def]
  limit := rfl
  held := held_ofFiles paths limit ▸ Nat.zero_le _
  accounts := by
    refine ⟨List.replicate paths.length none, by simp [ofFiles], fun i run result hrun hresult => ?_, ?_⟩
    · obtain ⟨-, rfl⟩ := List.getElem?_eq_some_iff.mp hrun
      obtain ⟨-, rfl⟩ := List.getElem?_eq_some_iff.mp hresult
      simp only [ofFiles, List.getElem_map, List.getElem_replicate]
      exact .waiting
    · rw [List.reduceOption_replicate_none]
      exact .nil

private theorem Sound.play {paths : List String} {permits : Nat}
    (h : p.Sound r w begun paths permits)
    (hends : ∀ path ∈ paths, r.Ends path w) {turns : List Turn}
    (hbegun : ∀ place timing, ⟨place, .begin timing⟩ ∈ turns → begun place timing) (s : RunState) :
    ∃ p' t, r.play p turns w s = (.ok p', t) ∧ p'.Sound r w begun paths permits := by
  induction turns generalizing p s with
  | nil => exact ⟨p, s, rfl, h⟩
  | cons turn rest ih =>
    have ends : ∀ run ∈ p.runs, r.Ends run.path w := by
      intro run hrun
      refine hends run.path ?_
      rw [← h.files]
      exact List.mem_map_of_mem hrun
    obtain ⟨q, u, hturn⟩ := r.turn_completes ends turn s
    obtain ⟨taken, accounts⟩ := h.accounts
    have sound : q.Sound r w begun paths permits := by
      obtain ⟨same, held⟩ := held_of_turn hturn (h.limit ▸ h.held)
      refine ⟨(paths_of_turn hturn).trans h.files, same.trans h.limit, h.limit ▸ held, ?_⟩
      refine accounts.turn ends (fun timing hmove => ?_) hturn
      exact hbegun _ timing (List.mem_cons.mpr (Or.inl (by rw [← hmove])))
    obtain ⟨p', t, hplay, sound'⟩ :=
      ih sound (fun place timing later => hbegun place timing (List.mem_cons_of_mem _ later)) u
    exact ⟨p', t, (bind_of_ok hturn).trans hplay, sound'⟩

/-- A turn that changes a pool. -/
def Moves (r : Runner) (w : Surroundings) (p p' : Pool) : Prop :=
  ∃ turn s t, r.turn p turn w s = (.ok p', t) ∧ p' ≠ p

private theorem moves_of_advances {place : Nat} {path : String} {stage stage' : Stage}
    {move : FileMove}
    {results : List SuiteResult} (hrun : p.runs[place]? = some ⟨path, stage⟩)
    (h : r.Advances w s (p.held < p.permits) path move stage stage' results) :
    ∃ turn p' t, r.turn p turn w s = (.ok p', t) ∧ p' ≠ p := by
  obtain ⟨t, hturn⟩ := r.turn_of_advances hrun h
  refine ⟨⟨place, move⟩, _, t, hturn, fun same => h.ne ?_⟩
  obtain ⟨short, -⟩ := List.getElem?_eq_some_iff.mp hrun
  have stays := congrArg (fun q => q.runs[place]?) same
  simp only [put, List.getElem?_set_self short, hrun, Option.some.injEq, FileRun.mk.injEq] at stays
  exact stays.2

private theorem exists_turn (hends : ∀ run ∈ p.runs, r.Ends run.path w) (hpermits : 0 < p.permits)
    (hmissing : ¬ p.IsComplete) (s : RunState) :
    ∃ turn p' t, r.turn p turn w s = (.ok p', t) ∧ p' ≠ p := by
  by_cases busy : ∃ (place : Nat) (path : String) (stage : Stage),
      p.runs[place]? = some ⟨path, stage⟩ ∧ stage ≠ .waiting ∧ stage ≠ .collected
  · obtain ⟨place, path, stage, hrun, started, open_⟩ := busy
    cases stage with
    | waiting => exact absurd rfl started
    | underWay timing answers =>
      obtain ⟨outcome, t, hconclude, -⟩ := Runner.conclude_run
        (hends ⟨path, _⟩ (List.mem_of_getElem? hrun)) timing answers s
      exact moves_of_advances hrun (.finish hconclude)
    | ended outcome => exact moves_of_advances hrun .release (s := s)
    | done result => exact moves_of_advances hrun .collect (s := s)
    | collected => exact absurd rfl open_
  · have idle (run : FileRun) (hrun : run ∈ p.runs) : run.stage = .waiting ∨ run.stage = .collected := by
      obtain ⟨place, short, rfl⟩ := List.mem_iff_getElem.mp hrun
      by_contra neither
      obtain ⟨started, open_⟩ := not_or.mp neither
      exact busy ⟨place, p.runs[place].path, p.runs[place].stage, List.getElem?_eq_getElem short,
        started, open_⟩
    have free : p.held = 0 := by
      refine List.length_eq_zero_iff.mpr (List.filter_eq_nil_iff.mpr fun run hrun => ?_)
      rcases idle run hrun with waits | collected
      · simp [waits, Stage.holds]
      · simp [collected, Stage.holds]
    simp only [IsComplete, not_forall] at hmissing
    obtain ⟨run, hrun, missing⟩ := hmissing
    obtain ⟨place, short, rfl⟩ := List.mem_iff_getElem.mp hrun
    have waits := (idle _ hrun).resolve_right missing
    have here : p.runs[place]? = some ⟨p.runs[place].path, .waiting⟩ := by
      rw [List.getElem?_eq_getElem short, ← waits]
    have room : p.held < p.permits := free ▸ hpermits
    let timing : Timing := ⟨s.now, w.pace, w.latency⟩
    have begins : r.Advances w s (p.held < p.permits) p.runs[place].path (.begin timing) .waiting
        (.underWay timing []) [] := .begin room
    exact moves_of_advances here begins

private theorem wellFounded_moves (r : Runner) (w : Surroundings) :
    WellFounded fun p' p => Moves r w p p' := by
  let before (run' run : FileRun) : Prop := run'.path = run.path ∧ r.Later w run.path run'.stage run.stage
  have files : WellFounded before := by
    refine ⟨fun ⟨path, stage⟩ => ?_⟩
    have stages : WellFounded (r.Later w path) := r.wellFounded_later
    induction stage using stages.induction with
    | _ stage ih =>
      refine ⟨_, fun ⟨path', stage'⟩ ⟨same, later⟩ => ?_⟩
      dsimp only at same later
      subst same
      exact ih stage' later
  refine Subrelation.wf ?_ (InvImage.wf (fun p : Pool => (p.runs : Multiset FileRun)) files.cutExpand)
  rintro p' p ⟨turn, s, t, hturn, changed⟩
  rcases Runner.turn_eq_ok hturn with rfl | ⟨path, stage, stage', results, hrun, advances, rfl⟩
  · exact absurd rfl changed
  · refine ⟨{⟨path, stage'⟩}, ⟨path, stage⟩, fun run hrun' => ?_, ?_⟩
    · rw [Multiset.mem_singleton.mp hrun']
      exact ⟨rfl, s, _, _, _, advances⟩
    · have moved := perm_cons_set hrun ⟨path, stage'⟩
      rw [add_comm, add_comm (p.runs : Multiset FileRun)]
      exact Multiset.coe_eq_coe.mpr moved

private theorem Accounts.complete {taken : List (Option SuiteResult)}
    (h : p.Accounts r w begun taken)
    (hcomplete : p.IsComplete) : ∃ results, p.results.Perm results ∧
      List.Forall₂ (fun e result => r.Owes e.1 w (begun e.2) result) p.paths.zipIdx results := by
  have owed {place : Nat} (short : place < p.runs.length) (present : place < taken.length) :
      ∃ result, taken[place] = some result ∧ r.Owes p.runs[place].path w (begun place) result := by
    have own := h.each place p.runs[place] taken[place] (List.getElem?_eq_getElem short)
      (List.getElem?_eq_getElem present)
    rw [hcomplete _ (List.getElem_mem short)] at own
    generalize taken[place] = result at own ⊢
    cases own with
    | collected howes => exact ⟨_, rfl, howes⟩
  obtain ⟨results, rfl⟩ : ∃ results : List SuiteResult, taken = results.map some := by
    have all : ∀ o ∈ taken, ∃ result, some result = o := by
      intro o ho
      obtain ⟨place, present, rfl⟩ := List.mem_iff_getElem.mp ho
      obtain ⟨result, hresult, -⟩ := owed (h.length ▸ present) present
      exact ⟨result, hresult.symm⟩
    have range : taken ∈ Set.range (List.map (some : SuiteResult → Option SuiteResult)) := by
      rw [Set.range_list_map]
      exact all
    obtain ⟨results, hresults⟩ := range
    exact ⟨results, hresults.symm⟩
  refine ⟨results, by simpa [List.reduceOption] using h.results, ?_⟩
  refine List.forall₂_iff_get.mpr ⟨by simpa [paths] using h.length.symm, fun place hplace hresult => ?_⟩
  have short : place < p.runs.length := by simpa [paths] using hplace
  obtain ⟨result, hat, howes⟩ := owed short (by simpa using hresult)
  simp only [List.getElem_map, Option.some.injEq] at hat
  simpa [paths, hat] using howes

end Pool

namespace Runner

variable {r : Runner} {w : Surroundings} {paths : List String} {limit : Nat}

private theorem Leaves.of_shares {path : String} {timing : Timing} {transport : Http.Transport}
    {result : SuiteResult}
    (hmemory : ∀ before request, w.transport before request = w.transport [] request)
    (hshares : r.Shares path timing w transport) (h : r.Leaves path timing w transport result) :
    r.Leaves path timing w w.transport result := by
  have same : r.runAside path timing transport w = r.runAside path timing w.transport w := by
    refine runAside_congr fun before request hprefix => ?_
    obtain ⟨sent, answered⟩ := hshares before request hprefix
    rw [answered, hmemory sent, hmemory before]
  cases h with
  | completed hrun => exact .completed (same.symm.trans hrun)
  | brokeDown hrun => exact .brokeDown (same.symm.trans hrun)

private theorem exists_alone (hends : ∀ path ∈ paths, r.Ends path w) (timing : Nat → Timing) :
    ∃ results, List.Forall₂ (fun e result => r.Leaves e.1 (timing e.2) w w.transport result)
      paths.zipIdx results := by
  have each : ∀ e ∈ paths.zipIdx, ∃ result, r.Leaves e.1 (timing e.2) w w.transport result :=
    fun e he => (hends e.1 (List.fst_mem_of_mem_zipIdx he)).leaves _ _
  generalize paths.zipIdx = files at each
  induction files with
  | nil => exact ⟨[], .nil⟩
  | cons e rest ih =>
    obtain ⟨result, leaves⟩ := each e List.mem_cons_self
    obtain ⟨results, others⟩ := ih fun e' he' => each e' (List.mem_cons_of_mem e he')
    exact ⟨result :: results, .cons leaves others⟩

private theorem alone_unique {timing : Nat → Timing} {files : List (String × Nat)}
    {results results' : List SuiteResult}
    (h : List.Forall₂ (fun e result => r.Leaves e.1 (timing e.2) w w.transport result) files results)
    (h' : List.Forall₂ (fun e result => r.Leaves e.1 (timing e.2) w w.transport result) files results') :
    results = results' := by
  induction h generalizing results' with
  | nil => cases h'; rfl
  | cons leaves _ ih =>
    cases h' with
    | cons leaves' others => rw [leaves.unique leaves', ih others]

private theorem Owes.file {path : String} {begun : Timing → Prop} {result : SuiteResult}
    (h : r.Owes path w begun result) : result.file = some path := by
  obtain ⟨timing, transport, -, -, leaves⟩ := h
  exact leaves.file

private theorem map_file_eq {results : List SuiteResult} {start : Nat}
    (h : List.Forall₂ (fun e result => SuiteResult.file result = some e.1) (paths.zipIdx start) results) :
    results.map (·.file) = paths.map some := by
  induction paths generalizing start results with
  | nil =>
    cases h
    rfl
  | cons path rest ih =>
    rw [List.zipIdx_cons] at h
    cases h with
    | cons file others => rw [List.map_cons, List.map_cons, file, ih others]

private theorem runFilesAlong_run (hlimit : max 1 limit ≤ Pool.maxPermits) (turns : List Turn)
    (s : RunState) :
    r.runFilesAlong paths limit turns w s = r.play (.ofFiles paths limit) turns w s := by
  rw [runFilesAlong, Pool.opening, if_neg (Nat.not_lt.mpr hlimit)]
  rfl

private theorem runFilesAlong_sound (hlimit : max 1 limit ≤ Pool.maxPermits)
    (hends : ∀ path ∈ paths, r.Ends path w) (turns : List Turn) (s : RunState) :
    ∃ p t, r.runFilesAlong paths limit turns w s = (.ok p, t) ∧
      p.Sound r w (fun place timing => ⟨place, .begin timing⟩ ∈ turns) paths (max 1 limit) := by
  rw [runFilesAlong_run hlimit]
  exact (Pool.sound_ofFiles paths limit).play hends (fun _ _ => id) s

private theorem play_append (p : Pool) (l m : List Turn) (w : Surroundings) (s : RunState) :
    r.play p (l ++ m) w s = (r.play p l >>= fun q => r.play q m) w s := by
  induction l generalizing p s with
  | nil => rfl
  | cons turn rest ih =>
    rcases hturn : r.turn p turn w s with ⟨(e | q), u⟩
    · rw [List.cons_append, play, bind_of_error hturn, play,
        bind_of_error (bind_of_error hturn)]
    · rw [List.cons_append, play, bind_of_ok hturn, ih, play]
      rcases hplay : r.play q rest w u with ⟨(e | q'), v⟩
      · rw [bind_of_error hplay, bind_of_error ((bind_of_ok hturn).trans hplay)]
      · rw [bind_of_ok hplay, bind_of_ok ((bind_of_ok hturn).trans hplay)]

private theorem turn_set {p q : Pool} {place : Nat} {path : String} {move : FileMove}
    {stage stage' : Stage}
    {results : List SuiteResult} {s : RunState} (hplace : place < p.runs.length)
    (hq : q.permits = p.permits ∧ q.runs = p.runs.set place ⟨path, stage⟩)
    (h : r.Advances w s (q.held < q.permits) path move stage stage' results) :
    ∃ q' t, r.turn q ⟨place, move⟩ w s = (.ok q', t) ∧ q'.permits = p.permits ∧
      q'.runs = p.runs.set place ⟨path, stage'⟩ := by
  have here : q.runs[place]? = some ⟨path, stage⟩ := by rw [hq.2, List.getElem?_set_self hplace]
  obtain ⟨t, hturn⟩ := r.turn_of_advances here h
  exact ⟨_, t, hturn, hq.1, by simp [Pool.put, hq.2]⟩

private theorem play_wholeRun {p : Pool} {place : Nat} {path : String} (hends : r.Ends path w)
    (hrun : p.runs[place]? = some ⟨path, .waiting⟩) (hroom : p.held < p.permits) (timing : Timing)
    (s : RunState) :
    ∃ q t, r.play p (wholeRun timing place) w s = (.ok q, t) ∧ q.permits = p.permits ∧
      q.runs = p.runs.set place ⟨path, .collected⟩ := by
  obtain ⟨short, hat⟩ := List.getElem?_eq_some_iff.mp hrun
  have waits : p.permits = p.permits ∧ p.runs = p.runs.set place ⟨path, .waiting⟩ :=
    ⟨rfl, by rw [← hat, List.set_getElem_self]⟩
  have opens : r.Advances w s (p.held < p.permits) path (.begin timing) .waiting (.underWay timing []) [] :=
    .begin hroom
  obtain ⟨q₁, t₁, begins, underWay⟩ := turn_set short waits opens
  obtain ⟨outcome, u, hconclude, -⟩ := conclude_run hends timing [] t₁
  obtain ⟨q₂, t₂, finishes, ended⟩ := turn_set short underWay (.finish hconclude)
  obtain ⟨q₃, t₃, releases, done⟩ := r.turn_set (w := w) (s := t₂) short ended .release
  obtain ⟨q₄, t₄, collects, collected⟩ := r.turn_set (w := w) (s := t₃) short done .collect
  refine ⟨q₄, t₄, ?_, collected⟩
  simp only [wholeRun, List.map_cons, List.map_nil, play]
  rw [bind_of_ok begins, bind_of_ok finishes, bind_of_ok releases, bind_of_ok collects]
  rfl

private theorem playInTurn_run {p : Pool} {places : List Nat} (hnodup : places.Nodup)
    (hwaits : ∀ place ∈ places, ∃ path, p.runs[place]? = some ⟨path, .waiting⟩ ∧ r.Ends path w)
    (hfree : p.held = 0) (hpermits : 0 < p.permits) (s : RunState) :
    ∃ q t turns, r.playInTurn p places w s = (.ok q, t) ∧ r.play p turns w s = (.ok q, t) ∧
      q.runs.length = p.runs.length ∧
      (∀ place ∈ places, ∃ path, q.runs[place]? = some ⟨path, .collected⟩) ∧
      ∀ place, place ∉ places → q.runs[place]? = p.runs[place]? := by
  induction places generalizing p s with
  | nil => exact ⟨p, s, [], rfl, rfl, rfl, by simp, fun _ _ => rfl⟩
  | cons place rest ih =>
    obtain ⟨fresh, hnodup⟩ := List.nodup_cons.mp hnodup
    obtain ⟨path, hrun, hends⟩ := hwaits place List.mem_cons_self
    let timing : Timing := ⟨s.now, w.pace, w.latency⟩
    obtain ⟨q, u, hplay, hlimit, hruns⟩ := play_wholeRun hends hrun (hfree ▸ hpermits) timing s
    have others {other : Nat} (h : other ≠ place) : q.runs[other]? = p.runs[other]? := by
      rw [hruns, List.getElem?_set_ne (Ne.symm h)]
    have free : q.held = 0 := by
      have moved := Pool.held_put hrun path .collected
      have same : q.held = (p.put place path .collected).held := by simp only [Pool.held, Pool.put, hruns]
      simp [Stage.holds, hfree] at moved
      omega
    obtain ⟨q', t, turns, hrest, hplay', hlength, collected, stays⟩ := ih hnodup (p := q)
      (fun other hother => by
        rw [others (fun equal => fresh (equal ▸ hother))]
        exact hwaits other (List.mem_cons_of_mem _ hother)) free (hlimit ▸ hpermits) u
    have timed : readTime w s = (.ok timing, s) := rfl
    refine ⟨q', t, wholeRun timing place ++ turns, ?_, ?_, ?_, fun other hother => ?_,
      fun other hother => ?_⟩
    · rw [playInTurn, bind_of_ok timed, bind_of_ok hplay, hrest]
    · rw [play_append, bind_of_ok hplay, hplay']
    · rw [hlength, hruns, List.length_set]
    · rcases List.mem_cons.mp hother with rfl | later
      · obtain ⟨short, -⟩ := List.getElem?_eq_some_iff.mp hrun
        exact ⟨path, by rw [stays other fresh, hruns, List.getElem?_set_self short]⟩
      · exact collected other later
    · obtain ⟨apart, notLater⟩ := not_or.mp (fun h => hother (List.mem_cons.mpr h))
      rw [stays other notLater, others apart]

private theorem runFiles_run (hlimit : max 1 limit ≤ Pool.maxPermits)
    (hends : ∀ path ∈ paths, r.Ends path w)
    (s : RunState) : ∃ p t turns, r.runFiles paths limit w s = (.ok p.results, t) ∧
      r.runFilesAlong paths limit turns w s = (.ok p, t) ∧ p.IsComplete := by
  have waits (place : Nat) (h : place ∈ List.range paths.length) :
      ∃ path, (Pool.ofFiles paths limit).runs[place]? = some ⟨path, .waiting⟩ ∧ r.Ends path w := by
    have short : place < paths.length := List.mem_range.mp h
    refine ⟨paths[place], ?_, hends _ (List.getElem_mem short)⟩
    simp [Pool.ofFiles, List.getElem?_eq_getElem short]
  have permits : 0 < max 1 limit := Nat.lt_of_lt_of_le Nat.one_pos (Nat.le_max_left 1 limit)
  obtain ⟨p, t, turns, hinTurn, hplay, hlength, collected, -⟩ := playInTurn_run
    List.nodup_range waits (Pool.held_ofFiles paths limit) permits s
  refine ⟨p, t, turns, ?_, (runFilesAlong_run hlimit turns s).trans hplay, fun run hrun => ?_⟩
  · have opened : Pool.opening paths limit w s = (.ok (Pool.ofFiles paths limit), s) := by
      rw [Pool.opening, if_neg (Nat.not_lt.mpr hlimit)]
      rfl
    rw [runFiles, bind_of_ok opened, bind_of_ok hinTurn]
    rfl
  · obtain ⟨place, short, rfl⟩ := List.mem_iff_getElem.mp hrun
    have known : place < paths.length := by simpa [hlength, Pool.ofFiles] using short
    obtain ⟨path, hat⟩ := collected place (List.mem_range.mpr known)
    rw [List.getElem?_eq_getElem short, Option.some.injEq] at hat
    rw [hat]

/-- Suites of files that run in parallel lose nothing, as long as the permits can be counted and
each suite run ends. Along every schedule, at every moment, no more suites are under way than are
permitted, and as long as results are missing, some turn brings the work on; there is no endless
sequence of such turns; one schedule, that of files one after the other, is the plain run of all
files. At the end each file, also if it comes several times, has left one result, which is that of
its own suite or tells of its own breakdown, with the answers that the shared transport gave to its
own requests. If these depend on the requests alone, the results are the same for every schedule and
every number of permits, and those of runs of the single files. -/
theorem parallel_runs_lose_nothing (hlimit : max 1 limit ≤ Pool.maxPermits)
    (hends : ∀ path ∈ paths, r.Ends path w) :
    (∀ turns s, ∃ p t, r.runFilesAlong paths limit turns w s = (.ok p, t) ∧ p.held ≤ max 1 limit ∧
      (¬ p.IsComplete → ∃ turn p' t', r.turn p turn w t = (.ok p', t') ∧ p' ≠ p) ∧
      (p.IsComplete → (p.results.map (·.file)).Perm (paths.map some) ∧
        ∃ results, p.results.Perm results ∧ List.Forall₂ (fun e result =>
          r.Owes e.1 w (fun timing => ⟨e.2, .begin timing⟩ ∈ turns) result) paths.zipIdx results)) ∧
    (WellFounded fun p' p => Pool.Moves r w p p') ∧
    (∀ s, ∃ p t turns, r.runFiles paths limit w s = (.ok p.results, t) ∧
      r.runFilesAlong paths limit turns w s = (.ok p, t) ∧ p.IsComplete) ∧
    ((∀ before request, w.transport before request = w.transport [] request) →
      ∀ timing : Nat → Timing, ∃ results,
        List.Forall₂ (fun e result => r.Leaves e.1 (timing e.2) w w.transport result)
          paths.zipIdx results ∧
        ∀ limit turns s p t, max 1 limit ≤ Pool.maxPermits →
          (∀ place own, ⟨place, .begin own⟩ ∈ turns → own = timing place) →
            r.runFilesAlong paths limit turns w s = (.ok p, t) → p.IsComplete →
              p.results.Perm results) := by
  refine ⟨fun turns s => ?_, Pool.wellFounded_moves r w, runFiles_run hlimit hends,
    fun hmemory timing => ?_⟩
  · obtain ⟨p, t, hrun, sound⟩ := runFilesAlong_sound hlimit hends turns s
    refine ⟨p, t, hrun, sound.held, fun hmissing => ?_, fun hcomplete => ?_⟩
    · have ends : ∀ run ∈ p.runs, r.Ends run.path w := by
        intro run hrun
        refine hends run.path ?_
        rw [← sound.files]
        exact List.mem_map_of_mem hrun
      refine Pool.exists_turn ends ?_ hmissing t
      rw [sound.limit]
      omega
    · obtain ⟨taken, accounts⟩ := sound.accounts
      obtain ⟨results, hperm, owed⟩ := accounts.complete hcomplete
      rw [sound.files] at owed
      refine ⟨?_, results, hperm, owed⟩
      rw [← map_file_eq (owed.imp fun e result howes => howes.file)]
      exact hperm.map _
  · obtain ⟨results, alone⟩ := exists_alone hends timing
    refine ⟨results, alone, fun limit turns s p t hlimit hbegun hrun hcomplete => ?_⟩
    obtain ⟨p', t', hrun', sound⟩ := runFilesAlong_sound hlimit hends turns s
    obtain ⟨rfl, rfl⟩ := end_ok_inj.mp (hrun'.symm.trans hrun)
    obtain ⟨taken, accounts⟩ := sound.accounts
    obtain ⟨results', hperm, owed⟩ := accounts.complete hcomplete
    rw [sound.files] at owed
    have leaves : List.Forall₂ (fun e result => r.Leaves e.1 (timing e.2) w w.transport result)
        paths.zipIdx results' := by
      refine owed.imp fun e result howes => ?_
      obtain ⟨own, transport, began, shares, left⟩ := howes
      obtain rfl := hbegun e.2 own began
      exact left.of_shares hmemory shares
    rw [alone_unique alone leaves]
    exact hperm

/-- A file with a suite that waits for no time, and one with a suite that breaks down on its
duration. -/
def passingAndBreaking : FileTree :=
  let suite (globals : Members Json) (duration : Json) : ByteArray :=
    let wait : Json := .object [("type", .string "wait"), ("ms", duration)]
    let test : Json := .object [("name", .string "t"), ("steps", .array [wait])]
    (Json.render (.object [("globals", .object globals), ("tests", .array [test])])).toUTF8
  .ofNames
    [("passing.json", suite [] (.int 0)),
      ("breaking.json", suite [("nums", .array [.int 1, .int 2])] (.string "{{$.globals.nums[::0]}}"))] []

def overFiles : Surroundings := { Surroundings.still .empty with files := passingAndBreaking }

def ofAll : Runner := ⟨.standard, [], [], [], none⟩

def atOnce : Timing := ⟨0, overFiles.pace, overFiles.latency⟩

/-- The second file breaks down while the first one is under way, and the third one gets its permit.
-/
def overlapping : List Turn :=
  [⟨0, .begin atOnce⟩, ⟨1, .begin atOnce⟩, ⟨2, .begin atOnce⟩, ⟨1, .finish⟩, ⟨1, .release⟩,
    ⟨2, .begin atOnce⟩, ⟨0, .finish⟩, ⟨0, .release⟩, ⟨2, .finish⟩, ⟨1, .collect⟩, ⟨2, .release⟩,
    ⟨2, .collect⟩, ⟨0, .collect⟩]

private theorem ends_passingAndBreaking {path : String}
    (h : path ∈ ["passing.json", "breaking.json", "passing.json"]) : ofAll.Ends path overFiles := by
  refine ends_of_isAlone (by decide) ?_
  simp only [List.mem_cons, List.not_mem_nil, or_false] at h
  rcases h with rfl | rfl | rfl
  · decide +kernel
  · decide +kernel
  · decide +kernel

theorem overlapping_runs_lose_nothing : ∃ p t results,
    ofAll.runFilesAlong ["passing.json", "breaking.json", "passing.json"] 2 overlapping overFiles
      .initial = (.ok p, t) ∧
    p.held ≤ 2 ∧ p.IsComplete ∧
    p.results.map (fun result => (result.file, result.error)) =
      [(some "breaking.json", some "suite task failed: panicked: assertion failed: step != 0"),
        (some "passing.json", none), (some "passing.json", none)] ∧
    List.Forall₂ (fun e result => ofAll.Leaves e.1 atOnce overFiles overFiles.transport result)
      [("passing.json", 0), ("breaking.json", 1), ("passing.json", 2)] results ∧
    p.results.Perm results := by
  obtain ⟨along, -, -, alike⟩ := @parallel_runs_lose_nothing ofAll overFiles
    ["passing.json", "breaking.json", "passing.json"] 2 (by decide) fun path => ends_passingAndBreaking
  have evaluated : Exec.yields (ofAll.runFilesAlong
      ["passing.json", "breaking.json", "passing.json"] 2 overlapping)
      (fun p => p.runs.all (fun run => run.stage matches .collected) &&
        p.results.map (fun result => (result.file, result.error)) ==
          [(some "breaking.json", some "suite task failed: panicked: assertion failed: step != 0"),
            (some "passing.json", none), (some "passing.json", none)]) overFiles .initial = true := by
    decide +kernel
  obtain ⟨p, t, hrun, test⟩ := exists_of_yields evaluated
  obtain ⟨collected, shown⟩ := Bool.and_eq_true_iff.mp test
  have complete : p.IsComplete := by
    intro run hrun
    have own := List.all_eq_true.mp collected run hrun
    split at own
    · assumption
    · cases own
  obtain ⟨p', t', hrun', held, -⟩ := along overlapping .initial
  obtain ⟨rfl, rfl⟩ := end_ok_inj.mp (hrun'.symm.trans hrun)
  obtain ⟨results, alone, same⟩ := alike (fun _ _ => rfl) fun _ => atOnce
  refine ⟨p', t', results, hrun, held, complete, by simpa using shown, alone, ?_⟩
  refine same 2 overlapping .initial p' t' (by decide) (fun place own began => ?_) hrun complete
  simp only [overlapping, List.mem_cons, Turn.mk.injEq, FileMove.begin.injEq, reduceCtorEq, and_false,
    false_or, or_false, List.not_mem_nil] at began
  rcases began with ⟨-, rfl⟩ | ⟨-, rfl⟩ | ⟨-, rfl⟩ | ⟨-, rfl⟩
  all_goals rfl

private theorem runFiles_of_too_many (h : Pool.maxPermits < limit) (s : RunState) :
    ∃ text, r.runFiles paths limit w s = (.error (.breakdown text), s) := by
  have beyond : Pool.maxPermits < max 1 limit := Nat.lt_of_lt_of_le h (Nat.le_max_right 1 limit)
  obtain ⟨text, opening⟩ : ∃ text, Pool.opening paths limit w s = (.error (.breakdown text), s) := by
    rw [Pool.opening, if_pos beyond]
    exact ⟨_, rfl⟩
  exact ⟨text, bind_of_error opening⟩

theorem too_many_permits_lose_all : ofAll.Ends "passing.json" overFiles ∧
    ∃ text, ofAll.runFiles ["passing.json"] (Nat.pow 2 61) overFiles .initial =
      (.error (.breakdown text), .initial) :=
  ⟨ends_passingAndBreaking List.mem_cons_self, runFiles_of_too_many (by decide) .initial⟩

end Runner

end Assay
