/- digest: What all of a run has: a property of the single operations on any variables belongs to
   every step, and in the end to everything that the suites of files do. -/

import Assay.Proofs.Exec.Congruence
import Assay.Run.Suite

set_option autoImplicit false
set_option relaxedAutoImplicit false

namespace Assay.Exec

/-- A property of what is done in one go, on one's own variables or on others. -/
structure Immediate (P : ∀ α : Type, Exec α → Prop) : Prop where
  pure : ∀ {α : Type} (a : α), P α (pure a)
  fault : ∀ {α : Type} (f : Fault), P α (fault f)
  breakdown : ∀ {α : Type} (text : String), P α (throw (.breakdown text))
  bind : ∀ {α β : Type} {x : Exec α} {f : α → Exec β}, P α x → (∀ a, P β (f a)) → P β (x >>= f)
  attempt : ∀ {α : Type} {x : Exec α}, P α x → P _ (attempt x)
  apart : ∀ {α : Type} {x : Exec α} (c : Context), P α x → P _ (apart c x)
  context : P _ context
  setContext : ∀ c, P _ (setContext c)
  /-- Neither the transport nor the templates nor the bound of the depth is read. -/
  reading : ∀ {α : Type} {f : Surroundings → Exec α},
    (∀ w T C n, f { w with transport := T, templates := C, depth := n } = f w) → (∀ w, P α (f w)) →
      P α (surroundings >>= f)

namespace Immediate

variable {P : ∀ α : Type, Exec α → Prop}

private theorem unrefused (hP : Immediate P) {α : Type} (r : Except Selector.Refusal α) :
    P α (unrefused r) := by
  cases r with
  | ok a => exact hP.pure a
  | error refusal => exact hP.breakdown _

private theorem write (hP : Immediate P) (p : Path) (v : Json) : P _ (write p v) := by
  refine hP.bind hP.context fun c => ?_
  split
  · exact hP.bind (hP.setContext _) fun _ => hP.pure _
  · exact hP.fault _

private theorem writeRoot (hP : Immediate P) (name : String) (v : Json) :
    P _ (writeRoot name v) := by
  refine hP.bind hP.context fun c => ?_
  split
  · exact hP.setContext _
  · exact hP.fault _

private theorem restore (hP : Immediate P) (p : Path) (old : Option Json) :
    P _ (Each.restore p old) := by
  cases old with
  | some v => exact hP.bind (hP.write p v) fun _ => hP.pure _
  | none =>
    refine hP.bind hP.context fun c => ?_
    split
    · exact hP.setContext _
    · exact hP.pure _

theorem nested (hP : Immediate P) : Nested P where
  pure := hP.pure
  fault := hP.fault
  bind := hP.bind
  attempt := hP.attempt
  reading := hP.reading
  resolving _ := by
    refine hP.bind hP.context fun c => hP.reading (fun _ _ _ _ => rfl) fun w => ?_
    refine hP.bind (hP.unrefused _) fun r => hP.bind (hP.setContext _) fun _ => hP.pure _
  write := hP.write
  writeRoot := hP.writeRoot
  recalling _ := hP.bind hP.context
  restore := hP.restore
  apart := hP.apart
  context := hP.context
  addLines _ hx := hP.bind hP.context fun _ => hP.bind (hP.setContext _) fun _ => hx
  takeLog := hP.bind hP.context fun _ => hP.bind (hP.setContext _) fun _ => hP.pure _

theorem foreign (hP : Immediate P) (work : ForeignWork) : P _ (Step.runForeign work) := by
  refine hP.bind hP.context fun c => hP.reading (fun _ _ _ _ => rfl) fun w => ?_
  split
  · exact hP.bind (hP.setContext _) fun _ => hP.pure _
  · exact hP.breakdown _

end Immediate

/-- A property of what is done on one's own variables or on others, time included. -/
structure Ordinary (P : ∀ α : Type, Exec α → Prop) : Prop extends Immediate P where
  readClock : P _ readClock
  pause : ∀ milliseconds, P _ (pause milliseconds)
  giveWay : P _ giveWay
  send : ∀ request, P _ (send request)

theorem Ordinary.working {P : ∀ α : Type, Exec α → Prop} (hP : Ordinary P) : Working P where
  toWriting := hP.nested.toWriting
  readClock := hP.readClock
  pause := hP.pause
  giveWay := hP.giveWay
  send := hP.send

/-- A property of whatever steps do. -/
structure Pervasive (P : ∀ α : Type, Exec α → Prop) : Prop extends Ordinary P where
  /-- Neither the transport nor the bound of the depth is read. -/
  consulting : ∀ {α : Type} {f : Surroundings → Exec α},
    (∀ w T n, f { w with transport := T, depth := n } = f w) → (∀ w, P α (f w)) →
      P α (surroundings >>= f)
  exhausted : ∀ {α : Type}, P α (throw .exhausted)
  underDeadline : ∀ {α : Type} {x : Exec α} (deadline : Nat), P α x → P _ (underDeadline deadline x)

namespace Pervasive

variable {P : ∀ α : Type, Exec α → Prop}

private theorem looping (hP : Pervasive P) : Looping P where
  toWorking := hP.working
  exhausted := hP.exhausted
  underDeadline := hP.underDeadline

private theorem templated (hP : Pervasive P) : Templated P where
  toNested := hP.nested
  consulting := hP.consulting

private theorem work (hP : Pervasive P) {body : List Step → Exec (List StepResult)}
    (hbody : ∀ steps, P _ (body steps)) (step : Step) : P _ (step.work body) := by
  cases step with
  | wait frame duration => exact hP.working.wait body frame duration
  | check frame => exact hP.pure _
  | each frame items itemKey indexKey steps => exact hP.working.each (hbody steps) _ _ _
  | loop frame condition timeout steps => exact hP.looping.loop (hbody steps) _ _
  | request frame call => exact hP.working.call call
  | use frame template arguments =>
    exact hP.templated.use (fun steps c _ => hP.apart c (hP.working.naming (hbody steps) _)) _ _
  | foreign frame work => exact hP.foreign work

theorem runWithin (hP : Pervasive P) (levels : Nat) (step : Step) :
    P _ (Step.runWithin levels step) := by
  induction levels generalizing step with
  | zero => exact hP.exhausted
  | succ levels ih =>
    refine hP.bind (hP.working.naming (hP.work (fun steps => ?_) step) _) fun o => ?_
    · exact hP.working.inTurn fun inner _ => ih inner
    · exact hP.nested.complete _ o

end Pervasive

namespace Nested

variable {P : ∀ α : Type, Exec α → Prop}

private theorem runSteps (hP : Nested P) {steps : List Step}
    (hsteps : ∀ step ∈ steps, P _ step.run) :
    P _ (TestCase.runSteps steps) := by
  induction steps with
  | nil => exact hP.pure _
  | cons step rest ih =>
    refine hP.bind (hP.attempt (hsteps step List.mem_cons_self)) fun r => ?_
    cases r with
    | ok result =>
      exact hP.bind (ih fun step' h => hsteps step' (List.mem_cons_of_mem step h)) fun _ => hP.pure _
    | error f => exact hP.bind hP.takeLog fun _ => hP.pure _

theorem runOnce (hP : Nested P) {c : TestCase} (hsteps : ∀ step ∈ c.steps, P _ step.run)
    (dataset : Option String) : P _ (c.runOnce dataset) :=
  hP.bind (hP.runSteps hsteps) fun _ => hP.pure _

end Nested

namespace Ordinary

variable {P : ∀ α : Type, Exec α → Prop} {α : Type}

private theorem runDatasets (hP : Ordinary P) {c : TestCase}
    (hsteps : ∀ step ∈ c.steps, P _ step.run)
    (snapshot : Context) (previous : Option Json) (datasets : List Dataset) :
    P _ (c.runDatasets snapshot previous datasets) := by
  induction datasets generalizing previous with
  | nil => exact hP.pure _
  | cons d rest ih =>
    refine hP.reading (fun _ _ _ _ => rfl) fun w => hP.bind (hP.unrefused _) fun start => ?_
    refine hP.bind (hP.apart _ (hP.nested.runOnce hsteps _)) fun r => hP.bind (ih _) fun others => ?_
    exact hP.pure _

private theorem carry (hP : Ordinary P) (globals : Option Json) : P _ (TestCase.carry globals) := by
  cases globals with
  | none => exact hP.pure _
  | some v => exact hP.bind hP.context fun c => hP.setContext _

private theorem case (hP : Ordinary P) {c : TestCase} (hsteps : ∀ step ∈ c.steps, P _ step.run) :
    P _ c.run := by
  refine hP.bind hP.context fun base => ?_
  split
  · refine hP.bind (hP.apart _ (hP.nested.runOnce hsteps _)) fun r => ?_
    exact hP.bind (hP.carry _) fun _ => hP.pure _
  · refine hP.bind (hP.runDatasets hsteps _ _ _) fun r => ?_
    exact hP.bind (hP.carry _) fun _ => hP.pure _

private theorem ofText (hP : Ordinary P) (read : Document.Reader α) (text : String) :
    P α (ofText read text) := by
  unfold Exec.ofText
  split
  · exact hP.pure _
  · exact hP.fault _

private theorem readTextFile (hP : Ordinary P) (path : String) : P _ (readTextFile path) := by
  refine hP.reading (fun _ _ _ _ => rfl) fun w => ?_
  split
  · exact hP.pure _
  · exact hP.working.complain _

private theorem fetchSource (hP : Ordinary P) (source : String) : P _ (fetchSource source) := by
  refine hP.reading (fun _ _ _ _ => rfl) fun w => ?_
  split
  · exact hP.pure _
  · exact hP.working.naming (hP.working.complain _) _
  · exact hP.working.naming (hP.working.complain _) _

private theorem loadAll (hP : Ordinary P) (v : Vocabulary) (folder : String) (store : TemplateStore)
    (sources : List String) : P _ (TemplateStore.loadAll v folder store sources) := by
  induction sources generalizing store with
  | nil => exact hP.pure _
  | cons source rest ih =>
    have text : P _ (readSource folder source) := by
      unfold readSource
      split
      · exact hP.fetchSource source
      · exact hP.working.naming (hP.readTextFile _) _
    refine hP.bind text fun text => hP.bind (hP.working.naming (hP.working.naming ?_ _) _) fun _ => ih _
    exact hP.ofText _ _

theorem readSuite (hP : Ordinary P) (r : Runner) (path : String) : P _ (r.readSuite path) :=
  hP.bind (hP.working.naming (hP.readTextFile _) _) fun _ => hP.working.naming (hP.ofText _ _) _

end Ordinary

/-- A property that is left alone if other templates and another folder stand in the place of those
around. -/
structure Ranging (P : ∀ α : Type, Exec α → Prop) : Prop extends Ordinary P where
  amid : ∀ {α : Type} {x : Exec α} (C : TemplateCatalog) (folder : String), P α x →
    P α (amid (fun w => { w with templates := C, folder := folder }) x)

theorem Ranging.suite {P : ∀ α : Type, Exec α → Prop} (hP : Ranging P) {r : Runner} {s : Suite}
    (hsteps : ∀ c ∈ r.selected s, ∀ step ∈ c.steps, P _ step.run) (folder : String) :
    P _ (r.run s folder) := by
  refine hP.bind (hP.loadAll _ _ _ _) fun store => ?_
  refine hP.bind (hP.apart _ (hP.amid _ _ ?_)) fun results => hP.pure _
  exact hP.working.inTurn fun c hc => hP.case (hsteps c hc)

/-- A property of whatever the suites of files do. -/
structure Entire (P : ∀ α : Type, Exec α → Prop) : Prop extends Pervasive P, Ranging P where
  depth : ∀ {α : Type} {f : Nat → Exec α}, (∀ n, P α (f n)) →
    P α (surroundings >>= fun w => f w.depth)

namespace Entire

variable {P : ∀ α : Type, Exec α → Prop}

theorem step (hP : Entire P) (step : Step) : P _ step.run := hP.depth fun n => hP.runWithin n step

private theorem suite (hP : Entire P) (r : Runner) (s : Suite) (folder : String) :
    P _ (r.run s folder) :=
  hP.toRanging.suite (fun _ _ step _ => hP.step step) folder

theorem file (hP : Entire P) (r : Runner) (path : String) : P _ (r.runFile path) := by
  refine hP.bind (hP.attempt (hP.readSuite r path)) fun s => ?_
  cases s with
  | error f => exact hP.pure _
  | ok s =>
    refine hP.bind (hP.attempt (hP.suite r s _)) fun result => ?_
    cases result with
    | ok result => exact hP.pure _
    | error f => exact hP.pure _

end Entire

/-- A computation runs in the same way whatever is put into its surroundings. -/
def Indifferent {ι α : Type} (change : Surroundings → ι → Surroundings) (x : Exec α) : Prop :=
  ∀ w i s, x (change w i) s = x w s

section Indifferent

variable {ι α β : Type} {change : Surroundings → ι → Surroundings} {x : Exec α}

private theorem Indifferent.bind {f : α → Exec β} (hx : Indifferent change x)
    (hf : ∀ a, Indifferent change (f a)) : Indifferent change (x >>= f) := by
  intro w i s
  rcases hrun : x w s with ⟨(e | a), u⟩
  · rw [bind_of_error ((hx w i s).trans hrun), bind_of_error hrun]
  · rw [bind_of_ok ((hx w i s).trans hrun), bind_of_ok hrun]
    exact hf a w i u

theorem indifferent_surroundings_bind {f : Surroundings → Exec α}
    (hread : ∀ w i, f (change w i) = f w) (hf : ∀ w, Indifferent change (f w)) :
    Indifferent change (surroundings >>= f) := by
  intro w i s
  rw [bind_of_ok (surroundings_run _ s), bind_of_ok (surroundings_run w s), hread]
  exact hf w w i s

private theorem Indifferent.attempt (hx : Indifferent change x) :
    Indifferent change (attempt x) := by
  intro w i s
  simp only [Exec.attempt, hx w i s]

private theorem Indifferent.apart (hx : Indifferent change x) (c : Context) :
    Indifferent change (apart c x) := by
  intro w i s
  simp only [Exec.apart, hx w i _]

/-- What neither uses templates nor looks at the bound of the depth does not depend on them. -/
theorem ordinary_indifferent
    (hchange : ∀ w i, ∃ T n, change w i = { w with templates := T, depth := n }) :
    Ordinary fun _ x => Indifferent change x := by
  have reading {α : Type} {f : Surroundings → Exec α}
      (hread : ∀ w T n, f { w with templates := T, depth := n } = f w)
      (hf : ∀ w, Indifferent change (f w)) : Indifferent change (surroundings >>= f) := by
    refine indifferent_surroundings_bind (fun w i => ?_) hf
    obtain ⟨T, n, changed⟩ := hchange w i
    rw [changed, hread]
  have untouched {α : Type} (x : Exec α) (h : ∀ w w' s, x w s = x w' s) : Indifferent change x :=
    fun w i s => h _ w s
  have get : Indifferent change (get : Exec RunState) := untouched _ fun _ _ _ => rfl
  have waitTo (time : Nat) : Indifferent change (waitTo time) := by
    refine reading (fun _ _ _ => rfl) fun w => ?_
    split
    · exact untouched _ fun _ _ _ => rfl
    · exact (untouched _ fun _ _ _ => rfl).bind fun _ => untouched _ fun _ _ _ => rfl
  exact
    { pure _ := untouched _ fun _ _ _ => rfl
      fault _ := untouched _ fun _ _ _ => rfl
      breakdown _ := untouched _ fun _ _ _ => rfl
      bind := Indifferent.bind
      attempt := Indifferent.attempt
      apart c hx := hx.apart c
      context := untouched _ fun _ _ _ => rfl
      setContext _ := untouched _ fun _ _ _ => rfl
      reading hread hf := reading (fun w T n => hread w w.transport T n) hf
      readClock := by
        intro w i s
        obtain ⟨T, n, changed⟩ := hchange w i
        rw [changed]
        rfl
      pause _ := get.bind fun _ => waitTo _
      giveWay := by
        refine get.bind fun s => reading (fun _ _ _ => rfl) fun w => ?_
        split
        · exact untouched _ fun _ _ _ => rfl
        · exact untouched _ fun _ _ _ => rfl
      send request := by
        rw [send_eq]
        refine reading (fun _ _ _ => rfl) fun w => get.bind fun s => ?_
        refine (untouched _ fun _ _ _ => rfl).bind fun _ => ?_
        refine receive_induction (fun _ => untouched _ fun _ _ _ => rfl)
          (fun _ => untouched _ fun _ _ _ => rfl) (fun x delay hx => ?_) _ _ _
        exact get.bind fun t => (waitTo _).bind fun _ => hx }

end Indifferent

end Assay.Exec
