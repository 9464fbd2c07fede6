/- digest: The scope of the bindings of a loop over items: after the loop, the two places hold what
   they held before it. -/

import Assay.Proofs.Context.Tree
import Assay.Proofs.Each.Rounds

set_option autoImplicit false
set_option relaxedAutoImplicit false

namespace Assay

open Context (LedBy envRoot)

namespace Exec

variable {w : Surroundings} {s : RunState} {p : Path}

private theorem exists_write (hp : p.Writable) (v : Json) (w : Surroundings) (s : RunState) :
    ∃ change c, write p v w s = (.ok change, { s with context := c }) ∧
      c.tree = Json.set v p.steps s.context.tree := by
  have done := Context.set_of_writable (c := s.context) (v := v) hp
  exact ⟨_, _, write_of_ok done, Context.tree_of_set done⟩

private theorem exists_write_of_not_writable (hp : ¬ p.Writable) (v : Json) (w : Surroundings)
    (s : RunState) : ∃ f, write p v w s = (.error (.fault f), s) := by
  rcases h : s.context.set p v with e | ⟨change, d⟩
  · exact ⟨_, write_of_error h⟩
  · exact absurd (Context.writable_of_set h) hp

end Exec

open Exec

namespace Each

variable {w : Surroundings} {s t u : RunState} {body : LoopBody} {P Q p : Path}

private theorem restore_absent_run (p : Path) (w : Surroundings) (s : RunState) :
    restore p none w s = (.ok (), { s with context := s.context.without p }) := by
  simp only [restore, bind_of_ok (context_run w s), Context.without]
  cases s.context.remove? p <;> rfl

private theorem exists_restore {old : Option Json} (hwrite : p.Writable)
    (hremove : old = none → p.segments ≠ []) (w : Surroundings) (s : RunState) :
    ∃ c, restore p old w s = (.ok (), { s with context := c }) ∧
      c.tree = Json.putBack p.steps old s.context.tree := by
  cases old with
  | none => exact ⟨_, restore_absent_run p w s, Context.tree_without (hremove rfl) s.context⟩
  | some v =>
    obtain ⟨change, c, hrun, htree⟩ := exists_write hwrite v w s
    exact ⟨c, (bind_of_ok hrun).trans rfl, htree⟩

private theorem restore_held (p : Path) (w : Surroundings) (s : RunState) :
    ∀ q, (restore p (s.context.get? p) w s).2.context.get? q = s.context.get? q := by
  intro q
  cases h : s.context.get? p with
  | none =>
    rw [restore_absent_run]
    exact Context.get?_without_of_absent h q
  | some v =>
    by_cases hp : p.Writable
    · rw [restore, bind_of_ok (write_of_ok (Context.set_of_get? hp h))]
      rfl
    · obtain ⟨f, hrun⟩ := exists_write_of_not_writable hp v w s
      rw [restore, bind_of_error hrun]

private theorem exists_bind (hP : P.Writable) (hQ : Q.Writable) (index : Nat) (item : Json)
    (w : Surroundings) (s : RunState) :
    ∃ c, bind P Q index item w s = (.ok (), { s with context := c }) ∧
      c.tree = Json.set (.nat index) Q.steps (Json.set item P.steps s.context.tree) := by
  obtain ⟨_, c, hitem, treeItem⟩ := exists_write hP item w s
  obtain ⟨_, d, hindex, treeIndex⟩ := exists_write hQ (.nat index) w { s with context := c }
  refine ⟨d, ?_, by rw [treeIndex, treeItem]⟩
  rw [bind, bind_of_ok hitem, bind_of_ok hindex]
  rfl

/-- What the body of a loop may do to the variables, which were `c` before the loop: nothing at,
above or below the two places, and nothing in later items of an array in which a place was a missing
item. -/
def Allows (P Q : Path) (c : Context) (o : Context.Operation) : Prop :=
  o.Spares P ∧ o.Spares Q ∧ (c.get? P = none → ¬ o.PutsBehind P) ∧
    (c.get? Q = none → ¬ o.PutsBehind Q)

/-- The places that were missing before the loop are clear for removal. That of the index has to be
only where it is not removed with that of the item, and does not have to wait for it. -/
structure Clear (P Q : Path) (before c : Context) : Prop where
  item : before.get? P = none → Json.Clears P.steps c.tree
  index : before.get? Q = none → ¬ P.steps <+: Q.steps → ¬ P.Behind Q → Json.Clears Q.steps c.tree

private theorem clear_self {c : Context} (hP : P.root ≠ envRoot) (hQ : Q.root ≠ envRoot) :
    Clear P Q c c where
  item absent := Json.clears_of_get?_eq_none P.steps_ne_nil (by rwa [← Context.get?_eq_tree hP])
  index absent _ _ := Json.clears_of_get?_eq_none Q.steps_ne_nil (by rwa [← Context.get?_eq_tree hQ])

private theorem get?_nat {q : List Segment} (hq : q ≠ []) (n : Nat) :
    Json.get? q (.nat n) = none := by
  obtain ⟨s, rest, rfl⟩ := List.exists_cons_of_ne_nil hq
  cases s <;> rfl

private theorem Clear.bind {before c d : Context} (h : Clear P Q before c) (index : Nat)
    (item : Json)
    (last : before.get? P = none → ¬ Q.Behind P)
    (hd : d.tree = Json.set (.nat index) Q.steps (Json.set item P.steps c.tree)) :
    Clear P Q before d := by
  constructor
  case item =>
    intro absent
    have own := Json.clears_set_below P.steps_ne_nil (h.item absent) [] item
    rw [List.append_nil] at own
    rw [hd]
    by_cases above : Q.steps <+: P.steps
    · obtain ⟨rest, hrest⟩ := above
      by_cases inside : rest = []
      · rw [inside, List.append_nil] at hrest
        rw [hrest]
        simpa using Json.clears_set_below P.steps_ne_nil own [] (.nat index)
      · -- The index is a number, so nothing is left below it.
        refine Json.clears_of_get?_eq_none P.steps_ne_nil ?_
        rw [← hrest, Json.get?_append, Json.get?_set_self, Option.bind_some, get?_nat inside]
    · exact Json.clears_set_of_not_above P.steps_ne_nil own above (last absent) _
  case index =>
    intro absent below behind
    have own : Json.Clears Q.steps (Json.set item P.steps c.tree) :=
      Json.clears_set_of_not_above Q.steps_ne_nil (h.index absent below behind) below behind item
    have renewed := Json.clears_set_below Q.steps_ne_nil own [] (.nat index)
    rw [List.append_nil] at renewed
    rw [hd]
    exact renewed

private theorem Clear.ledBy {before c d : Context} (h : Clear P Q before c)
    (hd : LedBy (Allows P Q before) c d) : Clear P Q before d where
  item absent := hd.clears (fun _ ho => ⟨ho.1, ho.2.2.1 absent⟩) (h.item absent)
  index absent below behind :=
    hd.clears (fun _ ho => ⟨ho.2.1, ho.2.2.2 absent⟩) (h.index absent below behind)

/-- After rounds, however they end, what was clear for removal still is. And the only faults of
rounds are those of their bodies, with which they complete. -/
private theorem clear_rounds {before : Context} {index : Nat} {items : List Json}
    {r : Except Stop (Except Fault (List StepResult))} (hP : P.Writable) (hQ : Q.Writable)
    (last : before.get? P = none → ¬ Q.Behind P) (hclear : Clear P Q before s.context)
    (hbody : ∀ start ∈ starts P Q body w index items s,
      LedBy (Allows P Q before) start.context (body w start).2.context)
    (h : rounds P Q body index items w s = (r, t)) :
    Clear P Q before t.context ∧ ∀ f, r ≠ .error (.fault f) := by
  induction items generalizing index s r t with
  | nil =>
    cases h
    exact ⟨hclear, by simp⟩
  | cons item rest ih =>
    obtain ⟨c, hbind, htree⟩ := exists_bind hP hQ index item w s
    rw [starts_cons hbind, List.forall_mem_cons] at hbody
    obtain ⟨own, others⟩ := hbody
    rw [rounds_cons_of_bind hbind] at h
    have led : Clear P Q before (body w { s with context := c }).2.context :=
      (hclear.bind index item last htree).ledBy own
    rcases hrun : body w { s with context := c } with ⟨(e | results), v⟩ <;>
      rw [hrun] at h led others
    · cases e <;> cases h <;> exact ⟨led, by simp⟩
    · have later : ∀ start ∈ starts P Q body w (index + 1) rest v,
          LedBy (Allows P Q before) start.context (body w start).2.context := others
      have reached : Clear P Q before v.context := led
      rcases hrest : rounds P Q body (index + 1) rest w v with ⟨(e | inner), t'⟩
      · obtain ⟨kept, noFault⟩ := ih reached later hrest
        simp only [hrest] at h
        cases h
        refine ⟨kept, fun f equal => noFault f ?_⟩
        cases equal
        rfl
      · obtain ⟨kept, -⟩ := ih reached later hrest
        simp only [hrest] at h
        cases h
        exact ⟨kept, by simp⟩

/-- What it takes for a loop over items to give its places back what they held. Both can be written.
A place that held nothing is no root as a whole, as roots are not removed. Of two missing items of
one array, that of the item is the last, and comes right after the other. And the body does nothing
at, above or below the places, and nothing behind a missing item. -/
structure Restorable (P Q : Path) (body : LoopBody) (w : Surroundings) (items : List Json)
    (u : RunState) : Prop where
  writable : Q.Writable
  itemInside : u.context.get? P = none → P.segments ≠ []
  indexInside : u.context.get? Q = none → Q.segments ≠ []
  last : u.context.get? P = none → ¬ Q.Behind P
  next : u.context.get? Q = none → P.Behind Q → P.IsNext Q
  body : ∀ start ∈ starts P Q body w 0 items u,
    LedBy (Allows P Q u.context) start.context (body w start).2.context

private theorem exists_restored {items : List Json}
    {r : Except Stop (Except Fault (List StepResult))}
    (hP : P.Writable) (h : Restorable P Q body w items u)
    (hrounds : rounds P Q body 0 items w u = (r, t)) (hr : ∀ e, r = .error e → ∃ f, e = .fault f) :
    ∃ results c d, r = .ok results ∧
      restore P (u.context.get? P) w t = (.ok (), { t with context := c }) ∧
      restore Q (u.context.get? Q) w { t with context := c } = (.ok (), { t with context := d }) ∧
      d.get? P = u.context.get? P ∧ d.get? Q = u.context.get? Q := by
  obtain ⟨clear, noFault⟩ := clear_rounds hP h.writable h.last
    (clear_self hP.root h.writable.root) h.body hrounds
  cases r with
  | error e =>
    obtain ⟨f, rfl⟩ := hr e rfl
    exact absurd rfl (noFault f)
  | ok results =>
    obtain ⟨c, hrunP, treeP⟩ := exists_restore hP h.itemInside w t
    obtain ⟨d, hrunQ, treeQ⟩ := exists_restore h.writable h.indexInside w { t with context := c }
    refine ⟨results, c, d, rfl, hrunP, hrunQ, ?_⟩
    have atItem (e : Context) : e.get? P = Json.get? P.steps e.tree := Context.get?_eq_tree hP.root
    have atIndex (e : Context) : e.get? Q = Json.get? Q.steps e.tree :=
      Context.get?_eq_tree h.writable.root
    obtain ⟨first, second⟩ := clear
    have last := h.last
    have next := h.next
    simp only [atItem, atIndex] at first second last next treeP treeQ ⊢
    rw [treeQ, treeP]
    exact Json.get?_putBack_putBack P.steps_ne_nil Q.steps_ne_nil first second last next

private theorem get?_of_restore_held {α : Type} {next : Exec α} (hnext : ∀ v, (next w v).2 = v)
    (p : Path) :
    ((do restore P (u.context.get? P); restore Q (u.context.get? Q); next : Exec α) w u).2.context.get? p =
      u.context.get? p := by
  have first := restore_held P w u
  rcases hrun : restore P (u.context.get? P) w u with ⟨(e | _), v⟩ <;> rw [hrun] at first
  · rw [bind_of_error hrun]
    exact first p
  · have second := restore_held Q w v
    rw [first Q] at second
    rcases hrun' : restore Q (u.context.get? Q) w v with ⟨(e | _), v'⟩ <;> rw [hrun'] at second
    · rw [bind_of_ok hrun, bind_of_error hrun']
      exact (second p).trans (first p)
    · rw [bind_of_ok hrun, bind_of_ok hrun', hnext]
      exact (second p).trans (first p)

private theorem get?_of_run_not_opens {source : Json} {itemKey indexKey : String}
    {r : Except Stop Outcome}
    (hopens : ¬ ∃ items u, Opens w s source items u) (h : run source itemKey indexKey body w s = (r, t))
    (hend : ∀ e, r = .error e → ∃ f, e = .fault f) (p : Path) :
    t.context.get? p = s.context.get? p := by
  rcases hv : Token.resolveValue (Exec.scope w s) source with e | ⟨v, lines⟩
  · have broken : Exec.resolveValue source w s = (.error (.breakdown e.message), s) :=
      resolving_of_error hv
    rw [run, bind_of_error broken] at h
    cases h
    obtain ⟨f, impossible⟩ := hend _ rfl
    cases impossible
  · have resolved : Exec.resolveValue source w s =
        (.ok v, { s with context := s.context.logLines lines }) := resolving_of_ok hv
    rw [run, bind_of_ok resolved] at h
    cases hitems : items? v with
    | some items => exact absurd ⟨items, _, v, lines, hv, itemsOf_iff.mpr hitems, rfl⟩ hopens
    | none =>
      simp only [hitems] at h
      cases h
      rfl

private theorem get?_of_opens {source : Json} {items : List Json} (h : Opens w s source items u)
    (p : Path) :
    u.context.get? p = s.context.get? p := by
  obtain ⟨v, lines, -, -, rfl⟩ := h
  rfl

private theorem get?_of_run_nil {source : Json} {itemKey indexKey : String}
    {r : Except Stop Outcome}
    (hopens : Opens w s source [] u) (hP : Path.read? itemKey = some P)
    (hQ : Path.read? indexKey = some Q) (h : run source itemKey indexKey body w s = (r, t)) (p : Path) :
    t.context.get? p = s.context.get? p := by
  have nothing : rounds P Q body 0 [] w u = (.ok (.ok []), u) := rfl
  have held : ((do
      restore P (u.context.get? P)
      restore Q (u.context.get? Q)
      pure ((Outcome.passed.withDetails [("iterations", .nat 0)]).withInner []) : Exec
        Outcome) w u).2.context.get? p = u.context.get? p := get?_of_restore_held (fun v => rfl) p
  rw [run_of_opens hopens hP hQ, bind_of_ok nothing] at h
  have ended := congrArg (·.2.context) h
  rw [← get?_of_opens hopens, ← held]
  exact congrArg (·.get? p) ended.symm

private theorem get?_of_run_refused {source item : Json} {rest : List Json}
    {itemKey indexKey : String}
    {r : Except Stop Outcome} (hopens : Opens w s source (item :: rest) u)
    (hP : Path.read? itemKey = some P) (hQ : Path.read? indexKey = some Q) (hwritable : ¬ P.Writable)
    (h : run source itemKey indexKey body w s = (r, t)) (p : Path) :
    t.context.get? p = s.context.get? p := by
  obtain ⟨f, hwrite⟩ := exists_write_of_not_writable hwritable item w u
  have faulted : rounds P Q body 0 (item :: rest) w u = (.error (.fault f), u) := by
    rw [rounds, bind_of_error hwrite]
  rw [run_of_opens hopens hP hQ, bind_of_error faulted] at h
  cases h
  exact get?_of_opens hopens p

private theorem logBlind_allows (P Q : Path) (before c : Context) :
    LogBlind (LedBy (Allows P Q before) c) :=
  LedBy.logBlind (fun _ => ⟨trivial, trivial, fun _ => id, fun _ => id⟩)
    ⟨trivial, trivial, fun _ => id, fun _ => id⟩

private theorem keeps_write_allowed {before c : Context} (h : ∀ v, Allows P Q before (.set p v))
    (v : Json) :
    Keeps (LedBy (Allows P Q before) c) (write p v) := by
  intro w s led
  rcases hset : s.context.set p v with e | ⟨change, d⟩
  · rw [write_of_error hset]
    exact led
  · rw [write_of_ok hset]
    exact led.set h hset

private theorem keeps_saving {before c : Context} {target : String} {v : Json}
    (htarget : Token.hasTokens target = false) (hp : Path.read? target = some p)
    (h : ∀ v, Allows P Q before (.set p v)) (inner : Step → Exec StepResult) :
    Keeps (LedBy (Allows P Q before) c) (Step.runLayer inner (.check (.saving [(target, v)]))) := by
  have log := logBlind_allows P Q before c
  have place (label : String) : Step.readTarget label target = pure p := by
    simp only [Step.readTarget, htarget, Bool.false_eq_true, if_false, readPath, hp, pure_bind]
    rfl
  have quiet := quiet_keeps log
  refine (quiet.naming (keeps_pure _) _).bind fun outcome => Keeps.bind ?_ fun changes => ?_
  · change Keeps _ (Step.readTarget _ target >>= _)
    rw [place, pure_bind]
    refine (quiet.resolveValue v).bind fun v => ?_
    exact (keeps_write_allowed h v).bind fun change => keeps_pure _
  · refine (quiet.inTurn fun a _ => quiet.check a).bind fun findings => ?_
    exact (keeps_takeLog log).bind fun logs => keeps_pure _

/-- A loop that ends, completed or with a fault, has given both places back what they held before
it. -/
theorem run_restores {source : Json} {itemKey indexKey : String} {r : Except Stop Outcome}
    (hP : Path.read? itemKey = some P) (hQ : Path.read? indexKey = some Q)
    (h : run source itemKey indexKey body w s = (r, t)) (hend : ∀ e, r = .error e → ∃ f, e = .fault f)
    (hrestorable : ∀ items u, Opens w s source items u → items ≠ [] → P.Writable →
      Restorable P Q body w items u) :
    t.context.get? P = s.context.get? P ∧ t.context.get? Q = s.context.get? Q := by
  by_cases hopens : ∃ items u, Opens w s source items u
  · obtain ⟨items, u, hopens⟩ := hopens
    cases items with
    | nil => exact ⟨get?_of_run_nil hopens hP hQ h P, get?_of_run_nil hopens hP hQ h Q⟩
    | cons item rest =>
      by_cases hwritable : P.Writable
      · rw [run_of_opens hopens hP hQ] at h
        rcases hrounds : rounds P Q body 0 (item :: rest) w u with ⟨r', v⟩
        have hr : ∀ e, r' = .error e → ∃ f, e = .fault f := by
          rintro e rfl
          rw [bind_of_error hrounds] at h
          cases h
          exact hend e rfl
        obtain ⟨results, c, d, rfl, hrunP, hrunQ, atP, atQ⟩ :=
          exists_restored hwritable (hrestorable _ u hopens (by simp) hwritable) hrounds hr
        rw [bind_of_ok hrounds, bind_of_ok hrunP, bind_of_ok hrunQ] at h
        rw [get?_of_opens hopens] at atP atQ
        cases results <;> cases h <;> exact ⟨atP, atQ⟩
      · exact ⟨get?_of_run_refused hopens hP hQ hwritable h P,
          get?_of_run_refused hopens hP hQ hwritable h Q⟩
  · exact ⟨get?_of_run_not_opens hopens h hend P, get?_of_run_not_opens hopens h hend Q⟩

/-- A body that saves its two bindings elsewhere. -/
def pairing : LoopBody :=
  inTurn (Step.runWithin 5)
    [.check (.saving [("$.globals.last", .string "{{$.ctx.pair}}")])]

/-- The item and the index stand in one array that is not there before, the index first. -/
theorem pairing_restores : ∃ o t,
    run (.array [.nat 7, .nat 8]) "$.ctx.pair[1]" "$.ctx.pair[0]" pairing (.still .empty) .initial =
      (.ok o, t) ∧
    t.context.get? ⟨Context.ctxRoot, [.key "pair", .index 1]⟩ = none ∧
    t.context.get? ⟨Context.ctxRoot, [.key "pair", .index 0]⟩ = none := by
  have evaluated : (run (.array [.nat 7, .nat 8]) "$.ctx.pair[1]" "$.ctx.pair[0]" pairing).yields
      (fun _ => true) (.still .empty) .initial = true := by decide +kernel
  obtain ⟨o, t, hrun, -⟩ := exists_of_yields evaluated
  refine ⟨o, t, hrun, ?_⟩
  refine run_restores (P := ⟨Context.ctxRoot, [.key "pair", .index 1]⟩)
    (Q := ⟨Context.ctxRoot, [.key "pair", .index 0]⟩) (by decide +kernel) (by decide +kernel) hrun
    (by simp) ?_
  rintro items u - - -
  have outside (v : Json) : Allows ⟨Context.ctxRoot, [.key "pair", .index 1]⟩
      ⟨Context.ctxRoot, [.key "pair", .index 0]⟩ u.context (.set (.child Context.globalsRoot "last") v) := by
    have elsewhere : Context.globalsRoot ≠ Context.ctxRoot := by decide
    have apart (i : Nat) : Path.Apart ⟨Context.ctxRoot, [.key "pair", .index i]⟩
        (.child Context.globalsRoot "last") :=
      Segment.apart_of_fork (fun equal => elsewhere (Segment.key.inj equal).symm) [] _ _
    exact ⟨apart 1, apart 0, fun _ behind => elsewhere (Path.Behind.root behind),
      fun _ behind => elsewhere (Path.Behind.root behind)⟩
  constructor
  case writable => decide
  case itemInside => simp
  case indexInside => simp
  case last =>
    intro _ behind
    have later : Segment.Behind ([.key Context.ctxRoot, .key "pair"] ++ [.index 0])
        ([.key Context.ctxRoot, .key "pair"] ++ [.index 1]) := behind
    exact absurd (Segment.behind_item_iff.mp later) (by omega)
  case next => exact fun _ _ => ⟨[.key Context.ctxRoot, .key "pair"], 0, rfl, rfl⟩
  case body =>
    intro start _
    refine (quiet_keeps (logBlind_allows _ _ _ _)).inTurn (fun step member => ?_) _ _ (LedBy.refl _)
    rw [List.mem_singleton.mp member]
    exact keeps_saving (by decide +kernel) (by decide +kernel) outside _

/-- The item of a loop, whose body has no steps, lies at its place after the loop and not before. -/
def Outlives (itemKey indexKey : String) (p : Path) : Prop :=
  Path.read? itemKey = some p ∧ (Path.read? indexKey).isSome = true ∧
    RunState.initial.context.get? p = none ∧
    ∃ r t, run (.array [.nat 7]) itemKey indexKey (pure []) (.still .empty) .initial = (r, t) ∧
      (∀ e, r = .error e → ∃ f, e = .fault f) ∧ (t.context.get? p).isSome = true

private theorem outlives_of_endsIn {itemKey indexKey : String}
    (hread : Path.read? itemKey = some p ∧ (Path.read? indexKey).isSome = true ∧
      (RunState.initial.context.get? p).isNone = true)
    (h : (run (.array [.nat 7]) itemKey indexKey (pure [])).endsIn
      (fun t => (t.context.get? p).isSome) (.still .empty) .initial = true) :
    Outlives itemKey indexKey p :=
  ⟨hread.1, hread.2.1, Option.isNone_iff_eq_none.mp hread.2.2, exists_of_endsIn h⟩

/-- An item outlives its loop if the index cannot be written after it was, if it is a root as a
whole, or if the index is behind it in an array that was not there. -/
theorem items_outlive_loops :
    Outlives "$.ctx.item" "$.env.index" (.child Context.ctxRoot "item") ∧
      Outlives "$.item" "$.ctx.index" ⟨"item", []⟩ ∧
      Outlives "$.ctx.list[0]" "$.ctx.list[1]" ⟨Context.ctxRoot, [.key "list", .index 0]⟩ := by
  refine ⟨outlives_of_endsIn ?_ ?_, outlives_of_endsIn ?_ ?_, outlives_of_endsIn ?_ ?_⟩ <;>
    decide +kernel

end Each

end Assay
