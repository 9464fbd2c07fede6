/- digest: What two runs have in common if the steps inside them have: a relation of computations
   that lasts when they are put together relates loops and uses of templates whose bodies it
   relates. A property is the relation of what has it with itself. -/

import Assay.Proofs.Exec.Closure

set_option autoImplicit false
set_option relaxedAutoImplicit false

namespace Assay.Exec

/-- A relation of computations in which work on one's own variables stands with itself, and that
lasts when computations follow each other or turn their faults into values. -/
structure Congruence (R : ∀ α : Type, Exec α → Exec α → Prop) : Prop where
  own : Writing fun α x => R α x x
  bind : ∀ {α β : Type} {x y : Exec α} {f g : α → Exec β},
    R α x y → (∀ a, R β (f a) (g a)) → R β (x >>= f) (y >>= g)
  attempt : ∀ {α : Type} {x y : Exec α}, R α x y → R _ (attempt x) (attempt y)
  /-- The log is not read. -/
  recalling : ∀ {α : Type} {f g : Context → Exec α}, (∀ c lines, f { c with log := lines } = f c) →
    (∀ c lines, g { c with log := lines } = g c) → (∀ c, R α (f c) (g c)) →
      R α (context >>= f) (context >>= g)

namespace Congruence

variable {R : ∀ α : Type, Exec α → Exec α → Prop} {α β : Type}

theorem naming (hR : Congruence R) {x y : Exec α} (h : R α x y) (text : String) :
    R α (naming text x) (naming text y) := by
  refine hR.bind (hR.attempt h) fun r => ?_
  cases r with
  | ok a => exact hR.own.pure a
  | error f => exact hR.own.fault _

theorem inTurn (hR : Congruence R) {run other : β → Exec α} {l : List β}
    (h : ∀ b ∈ l, R α (run b) (other b)) : R _ (inTurn run l) (inTurn other l) := by
  induction l with
  | nil => exact hR.own.pure []
  | cons b rest ih =>
    refine hR.bind (h b List.mem_cons_self) fun a => ?_
    exact hR.bind (ih fun b' hb' => h b' (List.mem_cons_of_mem b hb')) fun _ => hR.own.pure _

private theorem eachRounds (hR : Congruence R) {body other : LoopBody} (h : R _ body other)
    (itemPath indexPath : Path) (index : Nat) (items : List Json) :
    R _ (Each.rounds itemPath indexPath body index items)
      (Each.rounds itemPath indexPath other index items) := by
  induction items generalizing index with
  | nil => exact hR.own.pure _
  | cons item rest ih =>
    refine hR.bind (hR.own.write _ _) fun _ => hR.bind (hR.own.write _ _) fun _ => ?_
    refine hR.bind (hR.attempt h) fun r => ?_
    cases r with
    | error f => exact hR.own.pure _
    | ok results =>
      refine hR.bind (ih (index + 1)) fun r => ?_
      cases r with
      | error f => exact hR.own.pure _
      | ok others => exact hR.own.pure _

theorem each (hR : Congruence R) {body other : LoopBody} (h : R _ body other) (source : Json)
    (itemKey indexKey : String) :
    R _ (Each.run source itemKey indexKey body) (Each.run source itemKey indexKey other) := by
  refine hR.bind (hR.own.resolveValue source) fun source => ?_
  cases Each.items? source with
  | none => exact hR.own.complain _
  | some items =>
    refine hR.bind (hR.own.readPath _) fun itemPath => hR.bind (hR.own.readPath _) fun indexPath => ?_
    refine hR.recalling (fun _ _ => rfl) (fun _ _ => rfl) fun c => ?_
    refine hR.recalling (fun _ _ => rfl) (fun _ _ => rfl) fun d => ?_
    refine hR.bind (hR.eachRounds h _ _ _ _) fun results => ?_
    refine hR.bind (hR.own.restore _ _) fun _ => hR.bind (hR.own.restore _ _) fun _ => ?_
    cases results with
    | error f => exact hR.own.fault f
    | ok inner => exact hR.own.pure _

private theorem expand (hR : Congruence R) (hnested : Nested fun α x => R α x x)
    {body other : List Step → Exec (List StepResult)} {t : Template}
    (h : ∀ c text, R _ (apart c (Exec.naming text (body t.steps)))
      (apart c (Exec.naming text (other t.steps))))
    (name : String) (arguments : Members Json) :
    R _ (Use.expand name t arguments body) (Use.expand name t arguments other) := by
  refine hR.bind (hR.own.ofDefinition _) fun parameters => ?_
  refine hR.bind (hnested.enter parameters) fun inside => hR.bind (h _ _) fun r => ?_
  refine hR.bind (hnested.deliver _ _ _ _) fun d => hnested.addLines _ ?_
  exact hR.own.bind (hR.own.writeRoot _ _) fun _ => hR.own.pure _

end Congruence

/-- A congruence that also lasts under deadlines. -/
structure TimedCongruence (R : ∀ α : Type, Exec α → Exec α → Prop) : Prop extends Congruence R where
  quiet : Quiet fun α x => R α x x
  exhausted : ∀ {α : Type}, R α (throw .exhausted) (throw .exhausted)
  underDeadline : ∀ {α : Type} {x y : Exec α} (deadline : Nat), R α x y →
    R _ (underDeadline deadline x) (underDeadline deadline y)
  /-- Neither the transport nor the templates nor the bound of the depth is read. -/
  reading : ∀ {α : Type} {f g : Surroundings → Exec α},
    (∀ w T C n, f { w with transport := T, templates := C, depth := n } = f w) →
    (∀ w T C n, g { w with transport := T, templates := C, depth := n } = g w) →
      (∀ w, R α (f w) (g w)) → R α (surroundings >>= f) (surroundings >>= g)

namespace TimedCongruence

variable {R : ∀ α : Type, Exec α → Exec α → Prop}

private theorem loopRounds (hR : TimedCongruence R) {body other : LoopBody} (h : R _ body other)
    (condition : Assertion) (timeout start patience done : Nat) (inner : List StepResult) :
    R _ (Loop.rounds condition body timeout start patience done inner)
      (Loop.rounds condition other timeout start patience done inner) := by
  induction patience generalizing done inner with
  | zero => exact hR.exhausted
  | succ patience ih =>
    refine hR.bind (hR.own.check condition) fun last => ?_
    split
    · exact hR.own.pure _
    · refine hR.bind hR.quiet.readClock fun time => ?_
      split
      · exact hR.own.pure _
      · refine hR.bind (hR.underDeadline _ h) fun results => ?_
        cases results with
        | none => exact hR.own.pure _
        | some results => exact hR.bind hR.quiet.giveWay fun _ => ih _ _

theorem loop (hR : TimedCongruence R) {body other : LoopBody} (h : R _ body other)
    (condition : Assertion) (timeout : Json) :
    R _ (Loop.run condition timeout body) (Loop.run condition timeout other) := by
  refine hR.bind (hR.own.readMilliseconds _ _) fun timeout => hR.bind hR.quiet.readClock fun start => ?_
  exact hR.reading (fun _ _ _ _ => rfl) (fun _ _ _ _ => rfl) fun w => hR.loopRounds h _ _ _ _ _ _

end TimedCongruence

/-- A congruence that looks up templates of some kind, and lasts on the variables of templates. -/
structure NestedCongruence (known : Template → Prop) (R : ∀ α : Type, Exec α → Exec α → Prop) : Prop
    extends Congruence R where
  apart : Nested fun α x => R α x x
  lookup : ∀ {α : Type} {f g : Template → Exec α} (name : String), (∀ t, known t → R α (f t) (g t)) →
    R α (surroundings >>= fun w => ofDefinition (w.templates.get name) >>= f)
      (surroundings >>= fun w => ofDefinition (w.templates.get name) >>= g)

namespace NestedCongruence

variable {known : Template → Prop} {R : ∀ α : Type, Exec α → Exec α → Prop}
  {body other : List Step → Exec (List StepResult)}

theorem use (hR : NestedCongruence known R)
    (h : ∀ t, known t → ∀ c text, R _ (Exec.apart c (Exec.naming text (body t.steps)))
      (Exec.apart c (Exec.naming text (other t.steps))))
    (template : String) (arguments : Members Json) :
    R _ (Use.run template arguments body) (Use.run template arguments other) := by
  refine hR.bind (hR.own.resolveText template) fun name => hR.lookup name fun t ht => ?_
  refine hR.bind (hR.own.resolving (Token.ignoresLog_expandMembers arguments)) fun given => ?_
  exact hR.expand hR.apart (h t ht) name given

end NestedCongruence

variable {P : ∀ α : Type, Exec α → Prop}

/-- A computation that has a property stands beside itself. -/
private def Diagonal (P : ∀ α : Type, Exec α → Prop) (α : Type) (x y : Exec α) :
    Prop := x = y ∧ P α x

private theorem diagonal_self : (fun α x => Diagonal P α x x) = P := by
  funext α x
  simp [Diagonal]

private theorem Writing.congruence (hP : Writing P) : Congruence (Diagonal P) where
  own := by
    rw [diagonal_self]
    exact hP
  bind h hf := by
    obtain ⟨rfl, hx⟩ := h
    obtain rfl := funext fun a => (hf a).1
    exact ⟨rfl, hP.bind hx fun a => (hf a).2⟩
  attempt h := by
    obtain ⟨rfl, hx⟩ := h
    exact ⟨rfl, hP.attempt hx⟩
  recalling hread _ h := by
    obtain rfl := funext fun c => (h c).1
    exact ⟨rfl, hP.recalling hread fun c => (h c).2⟩

theorem Writing.each (hP : Writing P) {body : LoopBody} (hbody : P _ body) (source : Json)
    (itemKey indexKey : String) : P _ (Each.run source itemKey indexKey body) :=
  (hP.congruence.each ⟨rfl, hbody⟩ source itemKey indexKey).2

/-- A property of work that may take time, may be given up and may be broken off. -/
structure Looping (P : ∀ α : Type, Exec α → Prop) : Prop extends Working P where
  exhausted : ∀ {α : Type}, P α (throw .exhausted)
  underDeadline : ∀ {α : Type} {x : Exec α} (deadline : Nat), P α x → P _ (underDeadline deadline x)

private theorem Looping.congruence (hP : Looping P) : TimedCongruence (Diagonal P) where
  toCongruence := hP.toWriting.congruence
  quiet := by
    rw [diagonal_self]
    exact hP.toQuiet
  exhausted := ⟨rfl, hP.exhausted⟩
  underDeadline deadline h := by
    obtain ⟨rfl, hx⟩ := h
    exact ⟨rfl, hP.underDeadline deadline hx⟩
  reading hread _ h := by
    obtain rfl := funext fun w => (h w).1
    exact ⟨rfl, hP.reading hread fun w => (h w).2⟩

theorem Looping.loop (hP : Looping P) {body : LoopBody} (hbody : P _ body) (condition : Assertion)
    (timeout : Json) : P _ (Loop.run condition timeout body) :=
  (hP.congruence.loop ⟨rfl, hbody⟩ condition timeout).2

theorem Nested.expand (hP : Nested P) {body : List Step → Exec (List StepResult)} {t : Template}
    (hbody : ∀ c text, P _ (Exec.apart c (Exec.naming text (body t.steps)))) (name : String)
    (arguments : Members Json) : P _ (Use.expand name t arguments body) := by
  have itself : Nested fun α x => Diagonal P α x x := by
    rw [diagonal_self]
    exact hP
  exact (hP.congruence.expand itself (fun c text => ⟨rfl, hbody c text⟩) name arguments).2

/-- A property of nested work that may look up any template. -/
structure Templated (P : ∀ α : Type, Exec α → Prop) : Prop extends Nested P where
  /-- Neither the transport nor the bound of the depth is read. -/
  consulting : ∀ {α : Type} {f : Surroundings → Exec α},
    (∀ w T n, f { w with transport := T, depth := n } = f w) → (∀ w, P α (f w)) →
      P α (surroundings >>= f)

namespace Templated

variable {body : List Step → Exec (List StepResult)}

private theorem congruence (hP : Templated P) : NestedCongruence (fun _ => True) (Diagonal P) where
  toCongruence := hP.toWriting.congruence
  apart := by
    rw [diagonal_self]
    exact hP.toNested
  lookup name h := by
    obtain rfl := funext fun t => (h t trivial).1
    refine ⟨rfl, hP.consulting (fun _ _ _ => rfl) fun w => ?_⟩
    exact hP.bind (hP.ofDefinition _) fun t => (h t trivial).2

theorem use (hP : Templated P)
    (hbody : ∀ steps c text, P _ (Exec.apart c (Exec.naming text (body steps)))) (template : String)
    (arguments : Members Json) : P _ (Use.run template arguments body) :=
  (hP.congruence.use (fun t _ c text => ⟨rfl, hbody t.steps c text⟩) template arguments).2

end Templated

end Assay.Exec
