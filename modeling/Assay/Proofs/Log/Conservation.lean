/- digest: No line of the log gets lost or comes twice in a step that completes: what its results
   show at any depth are the lines that were pending before it and those in its journal. -/

import Mathlib.Algebra.Order.Group.Multiset
import Mathlib.Tactic.Abel
import Assay.Proofs.Exec.Suspension
import Assay.Proofs.Log.Journal
import Assay.Proofs.Result.Tree
import Assay.Proofs.Step.Avoiding
import Assay.Proofs.Template.Use

set_option autoImplicit false
set_option relaxedAutoImplicit false

namespace Assay

namespace StepResult

/-- The lines that a result shows, with those of all results inside it. -/
private def lines (r : StepResult) : Multiset String := (r.nodes.flatMap (·.logs) : List String)

/-- The lines that results show, with those of all results inside them. -/
private def linesOf (results : List StepResult) : Multiset String :=
  ((nodesOf results).flatMap (·.logs) : List String)

mutual

/-- The result with no lines in it, at any depth. -/
def withoutLogs : StepResult → StepResult
  | ⟨id, name, kind, success, error, milliseconds, findings, changes, details, inner, _⟩ =>
    ⟨id, name, kind, success, error, milliseconds, findings, changes, details, withoutLogsAll inner, []⟩

/-- Results with no lines in them, at any depth. -/
private def withoutLogsAll : List StepResult → List StepResult
  | [] => []
  | r :: rest => withoutLogs r :: withoutLogsAll rest

end

@[simp] theorem linesOf_nil : linesOf [] = 0 := rfl

private theorem linesOf_cons (r : StepResult) (rest : List StepResult) :
    linesOf (r :: rest) = r.lines + linesOf rest := by
  simp [linesOf, lines, nodesOf]

private theorem linesOf_append (l m : List StepResult) :
    linesOf (l ++ m) = linesOf l + linesOf m := by
  induction l with
  | nil => simp
  | cons r rest ih => rw [List.cons_append, linesOf_cons, linesOf_cons, ih, add_assoc]

private theorem lines_eq (r : StepResult) : r.lines = r.logs + linesOf r.inner := by
  cases r
  simp [lines, linesOf, nodes]

@[simp] theorem lines_ofRound (index : Nat) (results : List StepResult) :
    (ofRound index results).lines = linesOf results := by
  rw [lines_eq]
  simp [ofRound]

private theorem withoutLogsAll_eq (l : List StepResult) : withoutLogsAll l = l.map withoutLogs := by
  induction l with
  | nil => rfl
  | cons r rest ih => rw [withoutLogsAll, ih, List.map_cons]

private theorem withoutLogs_eq (r : StepResult) :
    r.withoutLogs = { r with inner := r.inner.map withoutLogs, logs := [] } := by
  cases r
  rw [withoutLogs, withoutLogsAll_eq]

@[simp] theorem success_withoutLogs (r : StepResult) : r.withoutLogs.success = r.success := by
  rw [withoutLogs_eq]

@[simp] theorem withoutLogs_ofRound (index : Nat) (results : List StepResult) :
    (ofRound index results).withoutLogs = ofRound index (results.map withoutLogs) := by
  simp [withoutLogs_eq, ofRound, List.all_map, Function.comp_def]

end StepResult

namespace Outcome

private def withoutLogs (o : Outcome) :
    Outcome := { o with inner := o.inner.map StepResult.withoutLogs }

private theorem withoutLogs_withInner (inner : List StepResult) (o : Outcome) :
    (o.withInner inner).withoutLogs = o.withInner (inner.map StepResult.withoutLogs) := by
  have same : failures (inner.map StepResult.withoutLogs) = failures inner := by
    simp [failures, List.filter_map, Function.comp_def]
  dsimp only [withInner]
  rw [same]
  split
  · rfl
  · rfl

end Outcome

open StepResult (lines linesOf withoutLogs)

namespace Exec

variable {α β γ δ : Type} {T : TemplateCatalog} {held more : Multiset String}

abbrev pending (s : RunState) : Multiset String := s.context.log

/-- Wherever the first computation completes, so does the second, which leaves all lines in the log:
what they give is related, and the lines in hand and in the log before, with those that the second
one adds, are those in what the first one gives and in its log. -/
private def Tallies (T : TemplateCatalog) (held : Multiset String) (shown : α → Multiset String)
    (Q : α → β → Prop) (x : Exec α) (y : Exec β) : Prop :=
  ∀ w s a t, w.templates = T → x w s = (.ok a, t) → ∃ b logged, Q a b ∧
    held + (pending s + (logged : List String)) = shown a + pending t ∧
      ∀ l, y w (s.withLog l) = (.ok b, t.withLog (l ++ logged))

section Tallies

variable {shown : α → Multiset String} {shown' : γ → Multiset String} {Q : α → β → Prop}
  {R : γ → δ → Prop} {x : Exec α} {y : Exec β} {f : α → Exec γ} {g : β → Exec δ}

private theorem tallies_pure {a : α} {b : β} (h : Q a b) (hshown : shown a = held) :
    Tallies T held shown Q (pure a) (pure b) := by
  intro w s a' t _ hrun
  obtain ⟨rfl, rfl⟩ := pure_eq_ok.mp hrun
  refine ⟨b, [], h, by simp [hshown], fun l => by rw [List.append_nil]; rfl⟩

private theorem tallies_throw (e : Stop) : Tallies T held shown Q (throw e) y :=
  fun _ _ _ _ _ hrun => absurd hrun throw_ne_ok

private theorem Appends.tallies {x : Exec α} (h : Appends x) :
    Tallies T held (fun _ => held) Eq x x := by
  intro w s a t _ hrun
  obtain ⟨logged, grown, hy⟩ := h w s _ t hrun (by simp)
  exact ⟨a, logged, rfl, by rw [pending, pending, grown, Multiset.coe_add], hy⟩

private theorem Tallies.bind (h : Tallies T held shown Q x y)
    (hf : ∀ a b, Q a b → Tallies T (shown a) shown' R (f a) (g b)) :
    Tallies T held shown' R (x >>= f) (y >>= g) := by
  intro w s c t hw hrun
  obtain ⟨a, u, hx, hfa⟩ := bind_eq_ok.mp hrun
  obtain ⟨b, first, hab, sum, hy⟩ := h w s a u hw hx
  obtain ⟨d, second, hcd, sum', hg⟩ := hf a b hab w u c t hw hfa
  refine ⟨d, first ++ second, hcd, ?_, fun l => ?_⟩
  · calc held + (pending s + ((first ++ second : List String) : Multiset String))
        = held + (pending s + first) + second := by rw [← Multiset.coe_add]; abel
      _ = shown a + (pending u + second) := by rw [sum, add_assoc]
      _ = shown' c + pending t := sum'
  · have next := hg (l ++ first)
    rw [List.append_assoc] at next
    rw [bind_of_ok (hy l), next]

private theorem Appends.tallies_bind {x : Exec α} (h : Appends x) {f : α → Exec γ} {g : α → Exec δ}
    (hf : ∀ a, Tallies T held shown' R (f a) (g a)) :
    Tallies T held shown' R (x >>= f) (x >>= g) :=
  h.tallies.bind fun a _ equal => equal ▸ hf a

private theorem Tallies.frame (h : Tallies T held shown Q x y) (more : Multiset String) :
    Tallies T (more + held) (fun a => more + shown a) Q x y := by
  intro w s a t hw hrun
  obtain ⟨b, logged, hab, sum, hy⟩ := h w s a t hw hrun
  exact ⟨b, logged, hab, by rw [add_assoc, sum, add_assoc], hy⟩

private theorem Tallies.naming (h : Tallies T held shown Q x y) (text : String) :
    Tallies T held shown Q (naming text x) (naming text y) := by
  intro w s a t hw hrun
  obtain ⟨b, logged, hab, sum, hy⟩ := h w s a t hw (naming_eq_ok.mp hrun)
  exact ⟨b, logged, hab, sum, fun l => naming_eq_ok.mpr (hy l)⟩

private theorem tallies_surroundings_bind {f : Surroundings → Exec α} {g : Surroundings → Exec β}
    (h : ∀ w, w.templates = T → Tallies T held shown Q (f w) (g w)) :
    Tallies T held shown Q (surroundings >>= f) (surroundings >>= g) :=
  fun w s a t hw hrun => h w hw w s a t hw hrun

private theorem tallies_context_bind {f : Context → Exec α} {g : Context → Exec β}
    (h : ∀ c, Tallies T held shown Q (f c) (g c))
    (hread : ∀ (c : Context) l, g { c with log := l } = g c) :
    Tallies T held shown Q (context >>= f) (context >>= g) := by
  intro w s a t hw hrun
  obtain ⟨b, logged, hab, sum, hy⟩ := h s.context w s a t hw hrun
  refine ⟨b, logged, hab, sum, fun l => ?_⟩
  rw [bind_of_ok (context_run w (s.withLog l))]
  exact (congrFun (congrFun (hread s.context l) w) _).trans (hy l)

private theorem tallies_ofDefinition_bind {r : Except DefinitionError α} {f : α → Exec γ}
    {g : α → Exec δ}
    (h : ∀ a, r = .ok a → Tallies T held shown' R (f a) (g a)) :
    Tallies T held shown' R (ofDefinition r >>= f) (ofDefinition r >>= g) := by
  cases r with
  | error e =>
    intro w s c t _ hrun
    obtain ⟨a, u, hr, -⟩ := bind_eq_ok.mp hrun
    cases (ofDefinition_eq_ok.mp hr).1
  | ok a => exact h a rfl

private theorem tallies_inTurn {run : γ → Exec α} {other : γ → Exec β} {l : List γ}
    {shown : α → Multiset String}
    {all : List α → Multiset String} {f : α → β} (hnil : all [] = 0)
    (hcons : ∀ a rest, all (a :: rest) = shown a + all rest)
    (h : ∀ b ∈ l, Tallies T 0 shown (fun a a' => a' = f a) (run b) (other b)) :
    Tallies T 0 all (fun as bs => bs = as.map f) (inTurn run l) (inTurn other l) := by
  induction l with
  | nil => exact tallies_pure rfl hnil
  | cons b rest ih =>
    refine (h b List.mem_cons_self).bind fun a a' equal => ?_
    have others := (ih fun b' hb' => h b' (List.mem_cons_of_mem b hb')).frame (shown a)
    rw [add_zero] at others
    refine others.bind fun as bs hbs => tallies_pure ?_ (hcons a as)
    rw [equal, hbs, List.map_cons]

/-- Two namespaces that differ in their logs alone. -/
def SameButLog (c d : Context) : Prop := ∃ l, d = { c with log := l }

theorem SameButLog.refl (c : Context) : SameButLog c c := ⟨c.log, rfl⟩

private theorem Tallies.apart (h : Tallies T held shown Q x y) {c d : Context}
    (hd : SameButLog c d) :
    Tallies T (held + (c.log : List String)) (fun r => shown r.1 + (r.2.log : List String))
      (fun r r' => Q r.1 r'.1 ∧ SameButLog r.2 r'.2) (apart c x) (Journal.sharing d y) := by
  obtain ⟨own, rfl⟩ := hd
  rintro w s ⟨a, after⟩ t hw hrun
  obtain ⟨u, hx, rfl, rfl⟩ := apart_eq_ok.mp hrun
  obtain ⟨b, logged, hab, sum, hy⟩ := h w _ a u hw hx
  refine ⟨(b, u.context.copy), logged, ⟨hab, [], rfl⟩, ?_, fun l => ?_⟩
  · calc held + (c.log : Multiset String) + (pending s + logged)
        = held + ((c.log : Multiset String) + logged) + pending s := by abel
      _ = shown a + (u.context.log : Multiset String) + pending s := by rw [sum]
  · have shared := hy l
    simp only [RunState.withLog] at shared
    simp only [Journal.sharing, RunState.withLog, shared]
    rfl

end Tallies

private theorem Tallies.underDeadline {shown : α → Multiset String} {Q : α → β → Prop} {x : Exec α}
    {y : Exec β} (h : Tallies T held shown Q x y) (hx : Prompt x) (deadline : Nat) :
    Tallies T held (fun r => (r.map shown).getD held)
      (fun r r' => ∃ a b, r = some a ∧ r' = some b ∧ Q a b)
      (underDeadline deadline x) (underDeadline deadline y) := by
  intro w s r t hw hrun
  rcases underDeadline_eq_ok.mp hrun with ⟨a, rfl, hxa⟩ | ⟨-, cancelled⟩
  · obtain ⟨b, logged, hab, sum, hy⟩ :=
      h { w with deadlines := deadline :: w.deadlines } s a t hw hxa
    exact ⟨some b, logged, ⟨a, b, rfl, rfl, hab⟩, sum,
      fun l => underDeadline_eq_ok.mpr (Or.inl ⟨b, rfl, hy l⟩)⟩
  · exact absurd cancelled (hx _ _ _ _)

end Exec

open Exec

variable {T : TemplateCatalog}

/-- What two runs of the steps of a body do with the lines of the log: the first shows them in its
results, the second has the same results without them. -/
private def BodyTallies (T : TemplateCatalog) (body other : LoopBody) : Prop :=
  Tallies T 0 linesOf (fun l m => m = l.map withoutLogs) body other

section Loops

variable {body other : LoopBody}

private def Each.round (itemPath indexPath : Path) (body : LoopBody) (index : Nat) (item : Json) :
    LoopBody := do
  let _ ← Exec.write itemPath item
  let _ ← Exec.write indexPath (.nat index)
  body

private theorem Each.rounds_cons_eq_ok {itemPath indexPath : Path} {index : Nat} {item : Json}
    {rest : List Json} {w : Surroundings} {s t : RunState} {results : List StepResult} :
    Each.rounds itemPath indexPath body index (item :: rest) w s = (.ok (.ok results), t) ↔
      ∃ first others, results = .ofRound index first :: others ∧
        ∃ u, Each.round itemPath indexPath body index item w s = (.ok first, u) ∧
          Each.rounds itemPath indexPath body (index + 1) rest w u = (.ok (.ok others), t) := by
  simp only [Each.rounds, Each.round, bind_eq_ok]
  constructor
  · rintro ⟨_, u₁, h₁, _, u₂, h₂, r, u₃, h₃, h⟩
    rcases attempt_eq_ok.mp h₃ with ⟨first, rfl, hbody⟩ | ⟨f, rfl, -⟩
    · obtain ⟨r, u₄, hrest, h⟩ := bind_eq_ok.mp h
      cases r with
      | error f => cases (pure_eq_ok.mp h).1
      | ok others =>
        obtain ⟨equal, rfl⟩ := pure_eq_ok.mp h
        cases equal
        exact ⟨first, others, rfl, u₃, ⟨_, u₁, h₁, _, u₂, h₂, hbody⟩, hrest⟩
    · cases (pure_eq_ok.mp h).1
  · rintro ⟨first, others, rfl, u₃, ⟨_, u₁, h₁, _, u₂, h₂, hbody⟩, hrest⟩
    refine ⟨_, u₁, h₁, _, u₂, h₂, .ok first, u₃, attempt_of_ok hbody, ?_⟩
    exact (bind_of_ok hrest).trans rfl

private theorem Each.tallies_rounds (h : BodyTallies T body other) (itemPath indexPath : Path)
    {w : Surroundings} (hw : w.templates = T) {index : Nat} {items : List Json} {s t : RunState}
    {results : List StepResult}
    (hrun : Each.rounds itemPath indexPath body index items w s = (.ok (.ok results), t)) :
    ∃ logged : List String, pending s + logged = linesOf results + pending t ∧
      ∀ l, Each.rounds itemPath indexPath other index items w (s.withLog l) =
        (.ok (.ok (results.map withoutLogs)), t.withLog (l ++ logged)) := by
  induction items generalizing index s results with
  | nil =>
    obtain ⟨equal, rfl⟩ := pure_eq_ok.mp hrun
    cases equal
    exact ⟨[], by simp, fun l => by rw [List.append_nil]; rfl⟩
  | cons item rest ih =>
    obtain ⟨first, others, rfl, u, hfirst, hrest⟩ := Each.rounds_cons_eq_ok.mp hrun
    have round : BodyTallies T (Each.round itemPath indexPath body index item)
        (Each.round itemPath indexPath other index item) :=
      (appends_write _ _).tallies_bind fun _ => (appends_write _ _).tallies_bind fun _ => h
    obtain ⟨_, logged, rfl, sum, hy⟩ := round w s first u hw hfirst
    obtain ⟨later, sum', hy'⟩ := ih hrest
    refine ⟨logged ++ later, ?_, fun l => ?_⟩
    · calc pending s + ((logged ++ later : List String) : Multiset String)
          = 0 + (pending s + logged) + later := by rw [← Multiset.coe_add]; abel
        _ = linesOf first + (pending u + later) := by rw [sum, add_assoc]
        _ = linesOf (.ofRound index first :: others) + pending t := by
          rw [sum', StepResult.linesOf_cons, StepResult.lines_ofRound, add_assoc]
    · refine Each.rounds_cons_eq_ok.mpr ⟨first.map withoutLogs, others.map withoutLogs, ?_, _, hy l, ?_⟩
      · rw [List.map_cons, StepResult.withoutLogs_ofRound]
      · rw [← List.append_assoc]
        exact hy' _

private theorem Each.tallies_run (h : BodyTallies T body other) (source : Json)
    (itemKey indexKey : String) :
    Tallies T 0 (fun o => linesOf o.inner) (fun o o' => o' = o.withoutLogs)
      (Each.run source itemKey indexKey body) (Each.run source itemKey indexKey other) := by
  refine (working_appends.resolveValue source).tallies_bind fun source => ?_
  cases Each.items? source with
  | none => exact tallies_throw _
  | some items =>
    refine (working_appends.readPath _).tallies_bind fun itemPath => ?_
    refine (working_appends.readPath _).tallies_bind fun indexPath => ?_
    refine tallies_context_bind (fun c => tallies_context_bind (fun d => ?_) fun _ _ => rfl)
      fun _ _ => rfl
    intro w s o t hw hrun
    obtain ⟨r, u, hrounds, hafter⟩ := bind_eq_ok.mp hrun
    cases r with
    | error f =>
      -- A fault goes on when the item and the index are given back, so nothing completes.
      obtain ⟨_, _, -, hafter⟩ := bind_eq_ok.mp hafter
      obtain ⟨_, _, -, hafter⟩ := bind_eq_ok.mp hafter
      exact absurd hafter fault_ne_ok
    | ok inner =>
      obtain ⟨first, sum, hy⟩ := Each.tallies_rounds h itemPath indexPath hw hrounds
      have after : Tallies T (linesOf inner) (fun o => linesOf o.inner) (fun o o' => o' = o.withoutLogs)
          (do
            Each.restore itemPath (c.get? itemPath)
            Each.restore indexPath (d.get? indexPath)
            pure ((Outcome.passed.withDetails [("iterations", .nat items.length)]).withInner inner))
          (do
            Each.restore itemPath (c.get? itemPath)
            Each.restore indexPath (d.get? indexPath)
            pure ((Outcome.passed.withDetails [("iterations", .nat items.length)]).withInner
              (inner.map withoutLogs))) := by
        refine (appends_restore _ _).tallies_bind fun _ => (appends_restore _ _).tallies_bind fun _ => ?_
        exact tallies_pure (Outcome.withoutLogs_withInner _ _).symm (by rw [Outcome.inner_withInner])
      obtain ⟨o', second, ho, sum', hy'⟩ := after w u o t hw hafter
      refine ⟨o', first ++ second, ho, ?_, fun l => ?_⟩
      · calc (0 : Multiset String) + (pending s + ((first ++ second : List String) : Multiset String))
            = pending s + first + second := by rw [← Multiset.coe_add]; abel
          _ = linesOf inner + (pending u + second) := by rw [sum, add_assoc]
          _ = linesOf o.inner + pending t := sum'
      · rw [bind_of_ok (hy l), ← List.append_assoc]
        exact hy' _

private theorem Loop.tallies_rounds (h : BodyTallies T body other) (hbody : Prompt body)
    (condition : Assertion) (timeout start patience done : Nat) (inner : List StepResult) :
    Tallies T (linesOf inner) (fun o => linesOf o.inner) (fun o o' => o' = o.withoutLogs)
      (Loop.rounds condition body timeout start patience done inner)
      (Loop.rounds condition other timeout start patience done (inner.map withoutLogs)) := by
  have ends (o : Outcome) : Tallies T (linesOf inner) (fun o => linesOf o.inner)
      (fun o o' => o' = o.withoutLogs) (pure (o.withInner inner))
      (pure (o.withInner (inner.map withoutLogs))) :=
    tallies_pure (Outcome.withoutLogs_withInner _ _).symm (by rw [Outcome.inner_withInner])
  induction patience generalizing done inner with
  | zero => exact tallies_throw _
  | succ patience ih =>
    refine (working_appends.check condition).tallies_bind fun last => ?_
    split
    · exact ends _
    · refine working_appends.readClock.tallies_bind fun time => ?_
      split
      · exact ends _
      · have round := (h.underDeadline hbody (firing start timeout)).frame (linesOf inner)
        rw [add_zero] at round
        refine round.bind ?_
        rintro _ _ ⟨results, _, rfl, rfl, rfl⟩
        have added : linesOf (Loop.addRound done results inner) =
            linesOf inner + linesOf results := by
          unfold Loop.addRound
          split
          · rename_i empty
            rw [List.isEmpty_iff.mp empty]
            simp
          · rw [StepResult.linesOf_append, StepResult.linesOf_cons]
            simp
        have bare : Loop.addRound done (results.map withoutLogs) (inner.map withoutLogs) =
            (Loop.addRound done results inner).map withoutLogs := by
          unfold Loop.addRound
          rw [List.isEmpty_map]
          split
          · rfl
          · rw [List.map_append, List.map_singleton, StepResult.withoutLogs_ofRound]
        dsimp only [Option.map_some, Option.getD_some]
        refine working_appends.giveWay.tallies_bind fun _ => ?_
        rw [← added, bare]
        exact ih _ _ fun o =>
          tallies_pure (Outcome.withoutLogs_withInner _ _).symm (by rw [Outcome.inner_withInner])

end Loops

namespace Use

theorem log_opened (caller : Context) (parameters : Members Json) :
    (opened caller parameters).log = [] := by
  unfold opened Context.isolated
  split
  · rfl
  · rfl

private theorem tallies_enter (parameters : Members Json) :
    Tallies T 0 (fun c => (c.log : List String)) Eq (enter parameters) (enter parameters) := by
  intro w s c t _ hrun
  rw [enter_run] at hrun
  obtain ⟨rfl, rfl⟩ := end_ok_inj.mp hrun
  exact ⟨_, [], rfl, by simp [log_opened], fun l => by rw [enter_run, List.append_nil]; rfl⟩

private theorem tallies_deliver {inside inside' : Context} (h : SameButLog inside inside')
    (outputs : Members Json) (changes : Changes) (output : Members Json) :
    Tallies T (inside.log : List String) (fun r => (r.1.log : List String))
      (fun r r' => SameButLog r.1 r'.1 ∧ r'.2 = r.2) (deliver inside outputs changes output)
      (Journal.deliver inside' outputs changes output) := by
  induction output generalizing inside inside' outputs changes with
  | nil => exact tallies_pure ⟨h, rfl⟩ rfl
  | cons e rest ih =>
    have resolved : Tallies T 0 (fun _ => 0) Eq (resolveValue e.2) (resolveValue e.2) :=
      (working_appends.resolveValue e.2).tallies
    have value := resolved.apart h
    rw [zero_add] at value
    refine value.bind ?_
    rintro ⟨v, after⟩ ⟨_, after'⟩ ⟨rfl, hafter⟩
    dsimp only
    rw [zero_add]
    refine (working_appends.readPath _).tallies_bind fun p => ?_
    exact (appends_write p v).tallies_bind fun change => ih hafter _ _

private theorem tallies_logLines {α β : Type} {held : Multiset String} {shown : α → Multiset String}
    {Q : α → β → Prop} {x : Exec α} {y : Exec β} (lines : List String)
    (h : Tallies T held shown Q x y) :
    Tallies T (held + lines) shown Q (do setContext ((← context).logLines lines); x) y := by
  intro w s a t hw hrun
  obtain ⟨b, logged, hab, sum, hy⟩ :=
    h w { s with context := s.context.logLines lines } a t hw hrun
  refine ⟨b, logged, hab, ?_, hy⟩
  calc held + (lines : Multiset String) + (pending s + logged)
      = held + (((s.context.log ++ lines : List String) : Multiset String) + logged) := by
        rw [← Multiset.coe_add]
        abel
    _ = shown a + pending t := sum

private theorem tallies_expand {body other : List Step → Exec (List StepResult)} {t : Template}
    (h : BodyTallies T (body t.steps) (other t.steps)) (name : String) (arguments : Members Json) :
    Tallies T 0 (fun o => linesOf o.inner) (fun o o' => o' = o.withoutLogs)
      (expand name t arguments body) (Journal.expand name t arguments other) := by
  refine (working_appends.ofDefinition _).tallies_bind fun parameters => ?_
  refine (tallies_enter parameters).bind ?_
  rintro inside _ rfl
  have steps := (h.naming ("template '" ++ name ++ "'")).apart (.refl inside)
  rw [zero_add] at steps
  refine steps.bind ?_
  rintro ⟨inner, after⟩ ⟨_, after'⟩ ⟨rfl, hafter⟩
  refine ((tallies_deliver hafter _ _ _).frame (linesOf inner)).bind ?_
  rintro ⟨last, outputs, changes⟩ ⟨_, _, _⟩ ⟨-, equal⟩
  cases equal
  refine tallies_logLines last.log ?_
  refine (appends_writeRoot _ _).tallies_bind fun _ => tallies_pure ?_ ?_
  · exact (Outcome.withoutLogs_withInner _ _).symm
  · exact congrArg linesOf (Outcome.inner_withInner _ _)

private theorem tallies_run {body other : List Step → Exec (List StepResult)}
    (h : ∀ name t, T.get name = .ok t → BodyTallies T (body t.steps) (other t.steps))
    (template : String) (arguments : Members Json) :
    Tallies T 0 (fun o => linesOf o.inner) (fun o o' => o' = o.withoutLogs)
      (run template arguments body) (Journal.use template arguments other) := by
  refine (working_appends.resolveText template).tallies_bind fun name => ?_
  refine tallies_surroundings_bind fun w hw => ?_
  rw [hw]
  refine tallies_ofDefinition_bind fun t ht => ?_
  refine (working_appends.resolving (Token.ignoresLog_expandMembers arguments)).tallies_bind ?_
  exact fun given => tallies_expand (h name t ht) name given

end Use

namespace Exec

variable {α : Type}

/-- The end of the whole run where a computation is cancelled. -/
def hold (x : Exec α) : Exec α := fun w s =>
  match x w s with
  | (.error (.cancelled _), t) => (.error .exhausted, t)
  | other => other

private theorem hold_eq_ok {x : Exec α} {w : Surroundings} {s t : RunState} {a : α} :
    hold x w s = (.ok a, t) ↔ x w s = (.ok a, t) := by
  unfold hold
  rcases x w s with ⟨(e | b), u⟩
  · cases e with
    | fault _ | breakdown _ | cancelled _ | exhausted => simp
  · rfl

private def Cancelled (e : Stop) : Prop := ∃ n, e = .cancelled n

private theorem noFault_cancelled : NoFault Cancelled := by
  rintro f ⟨n, equal⟩
  cases equal

private theorem Unless.hold {x y : Exec α} (h : Unless Cancelled T x y) :
    Unless Cancelled T x (hold y) := by
  intro w s hw
  rcases h w s hw with broken | same
  · exact Or.inl broken
  · rcases hy : y w s with ⟨(e | a), t⟩
    · cases e with
      | cancelled n => exact Or.inl ⟨_, t, ⟨n, rfl⟩, same.trans hy⟩
      | fault _ | breakdown _ | exhausted =>
        refine Or.inr (same.trans (hy.trans ?_))
        simp only [Exec.hold, hy]
    · exact Or.inr (same.trans (hy.trans (hold_eq_ok.mpr hy).symm))

private theorem prompt_hold (x : Exec α) : Prompt (hold x) := by
  intro w s n t h
  rcases hx : x w s with ⟨(e | b), u⟩
  · cases e with
    | fault _ | breakdown _ | cancelled _ | exhausted => simp [hold, hx] at h
  · simp [hold, hx] at h

end Exec

namespace Step

/-- Runs a step in which steps lie at most so many levels deep; a step inside it that is cancelled
is the end of the whole run. -/
def runHeld : Nat → Step → Exec StepResult
  | 0, _ => throw .exhausted
  | levels + 1, step => runLayer (fun inner => hold (runHeld levels inner)) step

/-- No round of a loop in a step is cancelled at its deadline: that a step in such a round would end
the run makes no difference. -/
def Undisturbed (step : Step) (w : Surroundings) (s : RunState) : Prop :=
  runHeld w.depth step w s = step.run w s

private theorem Free.undisturbed {step : Step} {w : Surroundings} {s t : RunState} {r : StepResult}
    (hstep : step.Free isLoop)
    (hcatalog : ∀ name t, w.templates.get name = .ok t → ∀ x ∈ t.steps, x.Free isLoop)
    (hrun : step.run w s = (.ok r, t)) : step.Undisturbed w s := by
  have same (levels : Nat) {step : Step} (hstep : step.Free isLoop) :
      Unless Cancelled w.templates (runWithin levels step) (runHeld levels step) := by
    induction levels generalizing step with
    | zero => exact Unless.refl _ _ _
    | succ levels ih =>
      obtain ⟨own, inside⟩ := hstep
      have body {steps : List Step} (h : ∀ x ∈ steps, x.Free isLoop) :
          Unless Cancelled w.templates (inTurn (runWithin levels) steps)
            (inTurn (fun x => hold (runHeld levels x)) steps) :=
        (nested_unless noFault_cancelled).inTurn fun x hx => (ih (h x hx)).hold
      exact unless_layer noFault_cancelled own (fun _ => body inside)
        fun _ name t ht => body (hcatalog name t ht)
  rcases same w.depth hstep w s rfl with ⟨_, t', ⟨n, rfl⟩, broken⟩ | equal
  · cases hrun.symm.trans broken
  · exact equal.symm

private theorem tallies_alone {step : Step} {body : List Step → Exec (List StepResult)}
    (happends : Appends (step.work body)) (hinner : Gives (fun o => o.inner = []) (step.work body)) :
    Tallies T 0 (fun o => linesOf o.inner) (fun o o' => o' = o.withoutLogs)
      (step.work body) (step.work body) := by
  intro w s o t hw hrun
  have tallies : Tallies T 0 (fun _ => 0) Eq (step.work body) (step.work body) := happends.tallies
  obtain ⟨_, logged, rfl, sum, hy⟩ := tallies w s o t hw hrun
  have none := hinner w s o t hrun
  refine ⟨o, logged, ?_, by simpa [none] using sum, hy⟩
  cases o
  cases none
  rfl

private theorem tallies_work {body other : List Step → Exec (List StepResult)} {step : Step}
    (hforeign : step.ForeignAll ForeignWork.Appends)
    (hbody : ∀ steps, ForeignAllOf ForeignWork.Appends steps → BodyTallies T (body steps) (other steps))
    (hcatalog : ∀ name t, T.get name = .ok t → ForeignAllOf ForeignWork.Appends t.steps)
    (hprompt : ∀ steps, Prompt (body steps)) :
    Tallies T 0 (fun o => linesOf o.inner) (fun o o' => o' = o.withoutLogs)
      (step.work body) (Journal.work other step) := by
  cases step with
  | wait frame duration =>
    refine tallies_alone ?_ ?_
    · refine (working_appends.readMilliseconds _ _).bind fun _ => ?_
      exact (working_appends.pause _).bind fun _ => appends_pure _
    · exact gives_bind fun _ => gives_bind fun _ => gives_pure rfl
  | check frame => exact tallies_pure rfl rfl
  | each frame items itemKey indexKey steps =>
    exact Each.tallies_run (hbody steps hforeign) _ _ _
  | loop frame condition timeout steps =>
    refine (working_appends.readMilliseconds _ _).tallies_bind fun milliseconds => ?_
    refine working_appends.readClock.tallies_bind fun start => ?_
    refine tallies_surroundings_bind fun w _ => ?_
    exact Loop.tallies_rounds (hbody steps hforeign) (hprompt steps) _ _ _ _ _ []
  | request frame call =>
    refine tallies_alone (working_appends.call call) ?_
    exact gives_bind fun _ => gives_bind fun _ => gives_bind fun _ => gives_pure rfl
  | use frame template arguments =>
    exact Use.tallies_run (fun name t ht => hbody t.steps (hcatalog name t ht)) _ _
  | foreign frame work =>
    refine tallies_alone hforeign ?_
    refine gives_bind fun c => gives_bind fun w => ?_
    split
    · exact gives_bind fun _ => gives_pure rfl
    · exact gives_throw _

private theorem complete_tallies (frame : StepFrame) (o : Outcome) {w : Surroundings}
    {s t : RunState}
    {r : StepResult} (hrun : complete frame o w s = (.ok r, t)) :
    t.context.log = [] ∧ ∃ logged : List String,
      linesOf o.inner + (pending s + logged) = r.lines ∧
      ∀ l, Journal.complete frame o.withoutLogs w (s.withLog l) =
        (.ok r.withoutLogs, t.withLog (l ++ logged)) := by
  obtain ⟨changes, u, hsave, hrun⟩ := bind_eq_ok.mp hrun
  obtain ⟨findings, v, hchecks, hrun⟩ := bind_eq_ok.mp hrun
  rw [bind_of_ok (takeLog_run w v)] at hrun
  obtain ⟨rfl, rfl⟩ := pure_eq_ok.mp hrun
  obtain ⟨first, grown, hy⟩ :=
    working_appends.saveAll frame.label o.changes frame.save w s _ u hsave (by simp)
  obtain ⟨second, grown', hy'⟩ := working_appends.checks frame.checks w u _ v hchecks (by simp)
  refine ⟨rfl, first ++ second, ?_, fun l => ?_⟩
  · rw [StepResult.lines_eq, grown', grown, ← Multiset.coe_add, ← Multiset.coe_add,
      ← Multiset.coe_add]
    abel
  · have completed : complete frame o.withoutLogs w (s.withLog l) =
        (.ok { id := frame.id, name := frame.label, kind := frame.kind
               success := o.success && findings.all (·.success)
               error := errorOf o findings, milliseconds := 0, findings := findings
               changes := changes, details := o.details
               inner := o.inner.map withoutLogs, logs := l ++ (first ++ second) }, v.withLog []) := by
      have next := hy' (l ++ first)
      rw [List.append_assoc] at next
      have saved : saveAll frame.label o.withoutLogs.changes frame.save w (s.withLog l) =
          (.ok changes, u.withLog (l ++ first)) := hy l
      rw [complete, bind_of_ok saved, bind_of_ok next, bind_of_ok (takeLog_run w _)]
      rfl
    rw [Journal.complete, bind_of_ok completed, StepResult.withoutLogs_eq]
    rfl

theorem log_of_runLayer {inner : Step → Exec StepResult} {step : Step} {w : Surroundings}
    {s t : RunState} {r : StepResult} (hrun : runLayer inner step w s = (.ok r, t)) :
    t.context.log = [] := by
  obtain ⟨o, u, -, hcomplete⟩ := bind_eq_ok.mp hrun
  exact (complete_tallies step.frame o hcomplete).1

private theorem tallies_layer {inner other : Step → Exec StepResult} {step : Step}
    (hforeign : step.ForeignAll ForeignWork.Appends)
    (hinner : ∀ x : Step, x.ForeignAll ForeignWork.Appends →
      Tallies T 0 lines (fun r r' => r' = r.withoutLogs) (inner x) (other x))
    (hcatalog : ∀ name t, T.get name = .ok t → ForeignAllOf ForeignWork.Appends t.steps)
    (hprompt : ∀ x, Prompt (inner x)) :
    Tallies T 0 lines (fun r r' => r' = r.withoutLogs) (runLayer inner step)
      (do
        let outcome ← naming (step.frame.kind ++ " step '" ++ step.frame.label ++ "' failed")
          (Journal.work (inTurn other) step)
        Journal.complete step.frame outcome) := by
  have body (steps : List Step) (h : ForeignAllOf ForeignWork.Appends steps) :
      BodyTallies T (inTurn inner steps) (inTurn other steps) :=
    tallies_inTurn rfl StepResult.linesOf_cons fun x hx => hinner x (foreignAllOf_iff.mp h x hx)
  refine ((tallies_work hforeign body hcatalog fun steps => ?_).naming _).bind ?_
  · exact nested_prompt.inTurn fun x _ => hprompt x
  · rintro o _ rfl w s r t _ hrun
    obtain ⟨drained, logged, sum, hy⟩ := complete_tallies step.frame o hrun
    exact ⟨r.withoutLogs, logged, rfl, by simpa [pending, drained] using sum, hy⟩

private theorem tallies_runHeld
    (hcatalog : ∀ name t, T.get name = .ok t → ForeignAllOf ForeignWork.Appends t.steps)
    (levels : Nat) {step : Step} (hforeign : step.ForeignAll ForeignWork.Appends) :
    Tallies T 0 lines (fun r r' => r' = r.withoutLogs) (runHeld levels step)
      (Journal.runWithin levels step) := by
  induction levels generalizing step with
  | zero => exact tallies_throw _
  | succ levels ih =>
    refine tallies_layer hforeign (fun x hx => ?_) hcatalog fun x => prompt_hold _
    intro w s r t hw hrun
    exact ih hx w s r t hw (hold_eq_ok.mp hrun)

end Step

/-- A step that completes keeps every line, and each once. Its journal, in which the same step runs
with one log for its own and for all templates' variables from which nobody takes, ends in the same
state and with the same results, but for the lines; and the lines in these results, at any depth,
are those that were pending before and those that the journal adds. No line is pending afterwards.
-/
theorem Step.completed_step_keeps_every_line {w : Surroundings} {s t : RunState} {step : Step}
    {r : StepResult} (hforeign : step.ForeignAll ForeignWork.Appends)
    (hcatalog : ∀ name T, w.templates.get name = .ok T → ForeignAllOf ForeignWork.Appends T.steps)
    (hundisturbed : step.Undisturbed w s) (hrun : step.run w s = (.ok r, t)) :
    ∃ logged : List String,
      Journal.run step w s = (.ok r.withoutLogs, t.withLog (s.context.log ++ logged)) ∧
      ((r.nodes.flatMap (·.logs) : List String) : Multiset String) =
        (s.context.log : Multiset String) + logged ∧
      t.context.log = [] := by
  rw [← hundisturbed] at hrun
  obtain ⟨_, logged, rfl, sum, hy⟩ := tallies_runHeld hcatalog w.depth hforeign w s r t rfl hrun
  have drained : t.context.log = [] := by
    cases hdepth : w.depth with
    | zero =>
      rw [hdepth] at hrun
      exact absurd hrun throw_ne_ok
    | succ levels =>
      rw [hdepth] at hrun
      exact log_of_runLayer hrun
  refine ⟨logged, hy s.context.log, ?_, drained⟩
  simpa [pending, drained, StepResult.lines] using sum.symm

/-- A template that looks for what is not there, in its steps and in an output. -/
def haunted : TemplateCatalog :=
  ⟨[("haunted", ⟨"haunted", none, [], [.check (.saving [("$.ctx.a", .string "{{$.ctx.ghost}}")])],
    [("$.out", .string "{{$.ctx.spirit}}")]⟩)], []⟩

/-- A use of this template in each round of a loop, which looks for something itself. -/
def hauntedLoop : Step :=
  .each (.saving [("$.seen", .string "{{$.ctx.shade}}")]) (.array [.null, .null]) "$.item" "$.index"
    [.use (.saving []) "haunted" []]

theorem hauntedLoop_keeps_every_line : ∃ r t logged,
    hauntedLoop.run (.still haunted) (RunState.initial.withLog ["before"]) = (.ok r, t) ∧
      r.nodes.map (·.logs) = [["Path not found: $.ctx.shade"], [],
        ["before", "Path not found: $.ctx.spirit"], ["Path not found: $.ctx.ghost"], [],
        ["Path not found: $.ctx.spirit"], ["Path not found: $.ctx.ghost"]] ∧
      Journal.run hauntedLoop (.still haunted) (RunState.initial.withLog ["before"]) =
        (.ok r.withoutLogs, t.withLog ("before" :: logged)) ∧
      ((r.nodes.flatMap (·.logs) : List String) : Multiset String) =
        (["before"] : List String) + (logged : Multiset String) ∧
      t.context.log = [] := by
  have evaluated : hauntedLoop.run.yields (fun r => r.nodes.map (·.logs) ==
      [["Path not found: $.ctx.shade"], [], ["before", "Path not found: $.ctx.spirit"],
        ["Path not found: $.ctx.ghost"], [], ["Path not found: $.ctx.spirit"],
        ["Path not found: $.ctx.ghost"]]) (.still haunted) (RunState.initial.withLog ["before"]) = true := by
    decide +kernel
  obtain ⟨r, t, hrun, shown⟩ := Exec.exists_of_yields evaluated
  have only {name : String} {T : Template} (h : haunted.get name = .ok T) :
      T.steps = [.check (.saving [("$.ctx.a", .string "{{$.ctx.ghost}}")])] := by
    cases List.mem_singleton.mp (TemplateCatalog.mem_of_get h)
    rfl
  have free : hauntedLoop.Free Step.isLoop := by
    refine .intro rfl fun x hx => ?_
    obtain rfl := List.mem_singleton.mp hx
    exact .intro rfl (by simp [Step.body])
  have catalog : ∀ name T, haunted.get name = .ok T → ∀ x ∈ T.steps, x.Free Step.isLoop := by
    intro name T h x hx
    rw [only h] at hx
    obtain rfl := List.mem_singleton.mp hx
    exact .intro rfl (by simp [Step.body])
  have foreign : ∀ name T, haunted.get name = .ok T →
      Step.ForeignAllOf ForeignWork.Appends T.steps := by
    intro name T h
    rw [only h]
    exact ⟨trivial, trivial⟩
  have own : hauntedLoop.ForeignAll ForeignWork.Appends := ⟨trivial, trivial⟩
  obtain ⟨logged, journal, conserved, drained⟩ := Step.completed_step_keeps_every_line own foreign
    (free.undisturbed catalog hrun) hrun
  exact ⟨r, t, logged, hrun, by simpa using shown, journal, conserved, drained⟩

end Assay
