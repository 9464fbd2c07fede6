/- digest: The rounds of a loop over items: one for each item in order, and each starts with its
   item and its index at their places, whatever the rounds before it wrote. -/

import Assay.Proofs.Exec.Completion
import Assay.Proofs.Path.Parting
import Assay.Proofs.Query.Place
import Assay.Proofs.Result.Tree
import Mathlib.Data.List.TakeWhile

set_option autoImplicit false
set_option relaxedAutoImplicit false

namespace Assay

namespace Path

open Selector.Lexeme (ne_of_isNameChar)

/-- A bare name: a plain name that is not the name of a known root. -/
def IsBareName (name : String) : Prop := Text.isPlainName name = true ∧ name ∉ knownRoots

instance (name : String) : Decidable (IsBareName name) :=
  inferInstanceAs (Decidable (_ ∧ _))

private theorem isOpen_of_isNameChar {c : Char} (h : Text.isNameChar c = true) :
    isOpen c = true := by
  have point : c ≠ '.' := ne_of_isNameChar h (by decide)
  have bracket : c ≠ '[' := ne_of_isNameChar h (by decide)
  simp [isOpen, point, bracket]

private theorem readSegments_of_isNameChar {cs : List Char} (hne : cs ≠ [])
    (hcs : ∀ c ∈ cs, Text.isNameChar c = true) :
    readSegments true cs = some [.key (String.ofList cs)] := by
  obtain ⟨c, rest, rfl⟩ := List.exists_cons_of_ne_nil hne
  have first := hcs c List.mem_cons_self
  have point : c ≠ '.' := ne_of_isNameChar first (by decide)
  have bracket : c ≠ '[' := ne_of_isNameChar first (by decide)
  have opens : ∀ d ∈ rest, isOpen d = true := fun d hd =>
    isOpen_of_isNameChar (hcs d (List.mem_cons_of_mem c hd))
  have trimmed : Text.trimChars (c :: rest) = c :: rest :=
    Text.trimChars_of_no_blank fun d hd => Text.isBlank_of_isNameChar (hcs d hd)
  rw [readSegments.eq_def]
  dsimp only
  rw [if_neg point, if_neg bracket, List.takeWhile_eq_self_iff.mpr opens,
    List.dropWhile_eq_nil_iff.mpr opens, trimmed, readSegments]
  rfl

private theorem read?_of_isBareName {name : String} (h : IsBareName name) :
    read? name = some (child defaultRoot name) := by
  obtain ⟨hne, hchars⟩ := Text.isPlainName_iff.mp h.1
  have trimmed : Text.trimChars name.toList = name.toList :=
    Text.trimChars_of_no_blank fun c hc => Text.isBlank_of_isNameChar (hchars c hc)
  have unrooted : ∀ rest, name.toList ≠ '$' :: rest := by
    intro rest equal
    have sign := hchars '$' (by rw [equal]; exact List.mem_cons_self)
    exact ne_of_isNameChar sign (by decide) rfl
  have ownRoot : knownRoots.contains name = false := by
    simpa using h.2
  rw [read?, trimmed]
  split
  · exact absurd ‹_› (unrooted _)
  · exact absurd ‹_› (unrooted _)
  · rw [readSegments_of_isNameChar hne hchars, Option.bind_some, String.ofList_toList, ofSegments,
      ownRoot]
    rfl

end Path

open Exec

namespace Each

variable {w : Surroundings} {s t u : RunState} {body : LoopBody} {P Q : Path}

/-- Puts the item and the index of a round at their places. -/
def bind (P Q : Path) (index : Nat) (item : Json) : Exec Unit := do
  let _ ← Exec.write P item
  let _ ← Exec.write Q (.nat index)
  pure ()

/-- The states in which the rounds of a loop start. -/
def starts (P Q : Path) (body : LoopBody) (w : Surroundings) :
    Nat → List Json → RunState → List RunState
  | _, [], _ => []
  | index, item :: rest, s =>
    match bind P Q index item w s with
    | (.error _, _) => []
    | (.ok _, u) =>
      u :: match body w u with
        | (.error _, _) => []
        | (.ok _, t) => starts P Q body w (index + 1) rest t

theorem starts_cons {index : Nat} {item : Json} {rest : List Json}
    (h : bind P Q index item w s = (.ok (), u)) :
    starts P Q body w index (item :: rest) s =
      u :: match body w u with
        | (.error _, _) => []
        | (.ok _, t) => starts P Q body w (index + 1) rest t := by
  rw [starts, h]

theorem rounds_cons (P Q : Path) (body : LoopBody) (index : Nat) (item : Json) (rest : List Json) :
    rounds P Q body index (item :: rest) = (do
      bind P Q index item
      match ← attempt body with
      | .error f => pure (.error f)
      | .ok results =>
        match ← rounds P Q body (index + 1) rest with
        | .error f => pure (.error f)
        | .ok others => pure (.ok (.ofRound index results :: others))) := by
  rw [rounds, bind, bind_assoc]
  refine bind_congr fun _ => ?_
  rw [bind_assoc]
  exact bind_congr fun _ => (pure_bind _ _).symm

theorem rounds_cons_of_bind {index : Nat} {item : Json} {rest : List Json}
    (h : bind P Q index item w s = (.ok (), u)) :
    rounds P Q body index (item :: rest) w s =
      match body w u with
      | (.ok results, v) =>
        match rounds P Q body (index + 1) rest w v with
        | (.ok others, t) => (.ok (others.map (.ofRound index results :: ·)), t)
        | (.error e, t) => (.error e, t)
      | (.error (.fault f), v) => (.ok (.error f), v)
      | (.error e, v) => (.error e, v) := by
  rw [rounds_cons, bind_of_ok h]
  rcases hbody : body w u with ⟨(e | results), v⟩
  · cases e with
    | fault f => exact bind_of_ok (attempt_of_fault hbody)
    | breakdown _ | cancelled _ | exhausted =>
      exact bind_of_error (attempt_of_stop hbody (by simp))
  · rw [bind_of_ok (attempt_of_ok hbody)]
    dsimp only
    rcases hrest : rounds P Q body (index + 1) rest w v with ⟨(e | others), t⟩
    · exact bind_of_error hrest
    · refine (bind_of_ok hrest).trans ?_
      cases others <;> rfl

private theorem rounds_cons_end {index : Nat} {item : Json} {rest : List Json}
    {r : Except Fault (List StepResult)} :
    rounds P Q body index (item :: rest) w s = (.ok r, t) ↔
      ∃ u, bind P Q index item w s = (.ok (), u) ∧
        ((∃ f, body w u = (.error (.fault f), t) ∧ r = .error f) ∨
          ∃ first v others, body w u = (.ok first, v) ∧
            rounds P Q body (index + 1) rest w v = (.ok others, t) ∧
            r = others.map (.ofRound index first :: ·)) := by
  rcases hbind : bind P Q index item w s with ⟨(e | _), u⟩
  · rw [rounds_cons, bind_of_error hbind]
    simp
  · rw [rounds_cons_of_bind hbind]
    constructor
    · intro h
      refine ⟨u, rfl, ?_⟩
      rcases hbody : body w u with ⟨(e | first), v⟩ <;> rw [hbody] at h
      · cases e <;> cases h
        exact Or.inl ⟨_, rfl, rfl⟩
      · dsimp only at h
        rcases hrest : rounds P Q body (index + 1) rest w v with ⟨(e | others), v'⟩ <;>
          rw [hrest] at h <;> cases h
        exact Or.inr ⟨first, v, others, rfl, hrest, rfl⟩
    · rintro ⟨_, equal, hend⟩
      cases equal
      rcases hend with ⟨f, hf, rfl⟩ | ⟨first, v, others, hfirst, hothers, rfl⟩
      · rw [hf]
      · rw [hfirst]
        dsimp only
        rw [hothers]

theorem exists_bind_of_start {index i : Nat} {items : List Json} {start : RunState}
    (h : (starts P Q body w index items s)[i]? = some start) :
    ∃ before item, items[i]? = some item ∧ bind P Q (index + i) item w before = (.ok (), start) := by
  induction items generalizing index i s with
  | nil => simp [starts] at h
  | cons item rest ih =>
    rcases hbind : bind P Q index item w s with ⟨(e | _), u⟩
    · simp [starts, hbind] at h
    · rw [starts_cons hbind] at h
      cases i with
      | zero =>
        obtain rfl : u = start := by simpa using h
        exact ⟨s, item, rfl, hbind⟩
      | succ i =>
        rcases hbody : body w u with ⟨(e | results), v⟩
        · simp [hbody] at h
        · obtain ⟨before, item', hitem, hstart⟩ := ih (by simpa [hbody] using h)
          exact ⟨before, item', hitem, by rwa [Nat.add_assoc, Nat.add_comm 1] at hstart⟩

theorem get?_of_bind {index : Nat} {item : Json} (hparts : Q.PartAtName P)
    (h : bind P Q index item w s = (.ok (), t)) :
    t.context.get? P = some item ∧ t.context.get? Q = some (.nat index) := by
  simp only [bind, Exec.bind_eq_ok, write_eq_ok, pure_eq_ok] at h
  obtain ⟨_, _, ⟨c, hitem, rfl⟩, _, _, ⟨d, hindex, rfl⟩, -, rfl⟩ := h
  constructor
  · exact (Context.get?_of_set hindex hparts).trans (Context.get?_self_of_set hitem)
  · exact Context.get?_self_of_set hindex

private theorem rounds_eq_ok {index : Nat} {items : List Json} {inner : List StepResult}
    (h : rounds P Q body index items w s = (.ok (.ok inner), t)) :
    inner.length = items.length ∧ (starts P Q body w index items s).length = items.length ∧
      ∀ i, i < items.length → ∃ start results stop,
        (starts P Q body w index items s)[i]? = some start ∧ body w start = (.ok results, stop) ∧
          inner[i]? = some (.ofRound (index + i) results) := by
  induction items generalizing index s inner with
  | nil =>
    obtain ⟨equal, -⟩ := pure_eq_ok.mp h
    cases equal
    exact ⟨rfl, rfl, by simp⟩
  | cons item rest ih =>
    obtain ⟨u, hbind, hend⟩ := rounds_cons_end.mp h
    rcases hend with ⟨f, -, impossible⟩ | ⟨first, v, others, hfirst, hothers, equal⟩
    · cases impossible
    · cases others with
      | error f => cases equal
      | ok others =>
        cases equal
        obtain ⟨hlength, hstarts, each⟩ := ih hothers
        rw [starts_cons hbind, hfirst]
        refine ⟨by simp [hlength], by simp [hstarts], fun i hi => ?_⟩
        cases i with
        | zero => exact ⟨u, first, v, rfl, hfirst, rfl⟩
        | succ i =>
          obtain ⟨start, results, stop, hstart, hresults, hround⟩ := each i (by simpa using hi)
          refine ⟨start, results, stop, by simpa using hstart, hresults, ?_⟩
          rwa [Nat.add_assoc, Nat.add_comm 1] at hround

/-- The items of a value: the elements of an array, the members of an object in their order, each as
a pair of its key and its value, and none where there is nothing to read. No other value has items.
-/
inductive ItemsOf : Json → List Json → Prop
  | elements (items : List Json) : ItemsOf (.array items) items
  | members (members : Members Json) :
    ItemsOf (.object members)
      (members.map fun m => .object [("key", .string m.1), ("value", m.2)])
  | null : ItemsOf .null []
  | blank : ItemsOf (.string "") []

theorem itemsOf_iff {v : Json} {items : List Json} : ItemsOf v items ↔ items? v = some items := by
  constructor
  · intro h
    cases h <;> rfl
  · intro h
    cases v with
    | array elements =>
      cases h
      exact .elements _
    | object members =>
      cases h
      exact .members members
    | null =>
      cases h
      exact .null
    | string text =>
      rw [items?, Option.ite_none_right_eq_some, String.isEmpty_iff] at h
      obtain ⟨rfl, equal⟩ := h
      cases equal
      exact .blank
    | bool _ | number _ => cases h

/-- The items that a loop runs over are those of its source, with tokens resolved in the state
before it. Its rounds begin in the state after that, which has more lines in its log. -/
def Opens (w : Surroundings) (s : RunState) (source : Json) (items : List Json) (u : RunState) :
    Prop :=
  ∃ v lines, Token.resolveValue (Exec.scope w s) source = .ok ⟨v, lines⟩ ∧ ItemsOf v items ∧
    u = { s with context := s.context.logLines lines }

/-- From its items on, a loop remembers what is at its two places, does its rounds and gives the
places back what they held. -/
theorem run_of_opens {source : Json} {items : List Json} {itemKey indexKey : String}
    (hopens : Opens w s source items u) (hP : Path.read? itemKey = some P)
    (hQ : Path.read? indexKey = some Q) :
    run source itemKey indexKey body w s = (do
      let results ← rounds P Q body 0 items
      restore P (u.context.get? P)
      restore Q (u.context.get? Q)
      match results with
      | .error f => Exec.fault f
      | .ok inner =>
        return (Outcome.passed.withDetails [("iterations", .nat items.length)]).withInner inner : Exec
          Outcome) w u := by
  obtain ⟨v, lines, hv, hitems, rfl⟩ := hopens
  have resolved : Exec.resolveValue source w s =
      (.ok v, { s with context := s.context.logLines lines }) := resolving_of_ok hv
  have item : Exec.readPath itemKey w { s with context := s.context.logLines lines } =
      (.ok P, { s with context := s.context.logLines lines }) := readPath_eq_ok.mpr ⟨hP, rfl⟩
  have index : Exec.readPath indexKey w { s with context := s.context.logLines lines } =
      (.ok Q, { s with context := s.context.logLines lines }) := readPath_eq_ok.mpr ⟨hQ, rfl⟩
  rw [run, bind_of_ok resolved]
  simp only [itemsOf_iff.mp hitems]
  rw [bind_of_ok item, bind_of_ok index, bind_of_ok (context_run w _)]
  exact bind_of_ok (context_run w _)

private theorem exists_opens_of_run {source : Json} {itemKey indexKey : String} {o : Outcome}
    (h : run source itemKey indexKey body w s = (.ok o, t)) :
    ∃ items u P Q, Opens w s source items u ∧ Path.read? itemKey = some P ∧
      Path.read? indexKey = some Q := by
  obtain ⟨v, u, hv, hrest⟩ := Exec.bind_eq_ok.mp h
  obtain ⟨lines, hresolve, rfl⟩ := resolving_eq_ok.mp hv
  cases hitems : items? v with
  | none =>
    simp only [hitems] at hrest
    exact absurd hrest fault_ne_ok
  | some items =>
    simp only [hitems, Exec.bind_eq_ok, readPath_eq_ok] at hrest
    obtain ⟨P, _, ⟨hP, rfl⟩, Q, _, ⟨hQ, rfl⟩, -⟩ := hrest
    exact ⟨items, _, P, Q, ⟨v, lines, hresolve, itemsOf_iff.mpr hitems, rfl⟩, hP, hQ⟩

/-- What a completed loop did: one round for each item in order. Each started with its item and its
index at their places, and its results are those of its body. -/
structure Ran (P Q : Path) (body : LoopBody) (w : Surroundings) (items : List Json) (u : RunState)
    (o : Outcome) : Prop where
  details : o.details = some (.object [("iterations", .nat items.length)])
  names : o.inner.map (·.name) = (List.range items.length).map fun i => "iteration " ++ toString i
  count : (starts P Q body w 0 items u).length = items.length
  rounds : ∀ i item, items[i]? = some item → ∃ start results stop,
    (starts P Q body w 0 items u)[i]? = some start ∧ start.context.get? P = some item ∧
      start.context.get? Q = some (.nat i) ∧ body w start = (.ok results, stop) ∧
      o.inner[i]? = some (.ofRound i results)

private theorem ran_of_rounds {items : List Json} {inner : List StepResult}
    (hparts : Q.PartAtName P)
    (h : rounds P Q body 0 items w u = (.ok (.ok inner), t)) :
    Ran P Q body w items u
      ((Outcome.passed.withDetails [("iterations", .nat items.length)]).withInner inner) := by
  obtain ⟨hlength, hstarts, each⟩ := rounds_eq_ok h
  constructor
  case details => rw [Outcome.details_withInner]; rfl
  case count => exact hstarts
  case names =>
    rw [Outcome.inner_withInner]
    apply List.ext_getElem?
    intro i
    by_cases hi : i < items.length
    · obtain ⟨start, results, stop, -, -, hround⟩ := each i hi
      rw [Nat.zero_add] at hround
      simp [hround, hi, StepResult.ofRound]
    · rw [List.getElem?_eq_none (by simpa [hlength] using hi), List.getElem?_eq_none (by simpa using hi)]
  case rounds =>
    intro i item hitem
    obtain ⟨hi, -⟩ := List.getElem?_eq_some_iff.mp hitem
    obtain ⟨start, results, stop, hstart, hresults, hround⟩ := each i hi
    obtain ⟨before, item', hitem', hbind⟩ := exists_bind_of_start hstart
    obtain rfl : item = item' := Option.some.inj (hitem.symm.trans hitem')
    obtain ⟨atItem, atIndex⟩ := get?_of_bind hparts hbind
    rw [Nat.zero_add] at atIndex hround
    exact ⟨start, results, stop, hstart, atItem, atIndex, hresults,
      by rw [Outcome.inner_withInner]; exact hround⟩

/-- A completed loop that binds two bare names did one round for each item that its source had in
the beginning, and each started with its item and its index under these names, whatever the rounds
before it wrote. -/
theorem run_by_rounds {source : Json} {itemName indexName : String} {o : Outcome}
    (hitem : Path.IsBareName itemName) (hindex : Path.IsBareName indexName)
    (hne : itemName ≠ indexName) (h : run source itemName indexName body w s = (.ok o, t)) :
    ∃ items u, Opens w s source items u ∧
      Ran (.child Context.ctxRoot itemName) (.child Context.ctxRoot indexName) body w items u o := by
  obtain ⟨items, u, P, Q, hopens, hP, hQ⟩ := exists_opens_of_run h
  obtain rfl : P = .child Context.ctxRoot itemName :=
    Option.some.inj (hP.symm.trans (Path.read?_of_isBareName hitem))
  obtain rfl : Q = .child Context.ctxRoot indexName :=
    Option.some.inj (hQ.symm.trans (Path.read?_of_isBareName hindex))
  rw [run_of_opens hopens hP hQ] at h
  obtain ⟨results, v, hrounds, hrest⟩ := Exec.bind_eq_ok.mp h
  obtain ⟨_, _, -, hrest⟩ := Exec.bind_eq_ok.mp hrest
  obtain ⟨_, _, -, hrest⟩ := Exec.bind_eq_ok.mp hrest
  refine ⟨items, u, hopens, ?_⟩
  cases results with
  | error f => exact absurd hrest fault_ne_ok
  | ok inner =>
    obtain ⟨rfl, -⟩ := pure_eq_ok.mp hrest
    exact ran_of_rounds (Or.inr ⟨[], _, _, [], [], hne.symm, rfl, rfl⟩) hrounds

def listing : RunState :=
  { RunState.initial with
    context := Context.empty.putRoot Context.ctxRoot (.object [("list", .array [.int 7, .int 8])]) }

/-- Steps that replace all own variables by a text. -/
def clearing : LoopBody := Step.runAll [.check (.saving [("$.ctx", .string "gone")])]

/-- A loop over the list does both rounds, although the first one removes the list and its item. -/
theorem clearing_run_by_rounds :
    ∃ o t items u, run (.string "{{$.ctx.list}}") "item" "index" clearing (.still .empty)
        listing = (.ok o, t) ∧ o.inner.length = 2 ∧
      Opens (.still .empty) listing (.string "{{$.ctx.list}}") items u ∧
      Ran (.child Context.ctxRoot "item") (.child Context.ctxRoot "index") clearing (.still .empty)
        items u o := by
  have evaluated : Exec.yields (run (.string "{{$.ctx.list}}") "item" "index" clearing)
      (fun o => o.inner.length == 2) (.still .empty) listing = true := by decide +kernel
  obtain ⟨o, t, h, count⟩ := Exec.exists_of_yields evaluated
  obtain ⟨items, u, opens, ran⟩ :=
    run_by_rounds (by decide +kernel) (by decide +kernel) (by decide) h
  exact ⟨o, t, items, u, h, by simpa using count, opens, ran⟩

end Each

end Assay
