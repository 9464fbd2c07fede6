/- digest: Loops over all parts of an array: but for a single part, which stands for itself there,
   they are the loops over the array. -/

import Assay.Proofs.Each.Rounds
import Assay.Proofs.Exec.Agreement
import Assay.Proofs.Exec.Lasting
import Assay.Proofs.Log.Fault
import Assay.Proofs.Token.Splicing

set_option autoImplicit false
set_option relaxedAutoImplicit false

namespace Assay

/-- A token with the written form of a place, and what follows it there. -/
def Path.token (p : Path) (following : String) : String :=
  Token.enclose (p.display ++ following)

namespace Token

private theorem scan_token {e : String} (h : IsSimple e.toList) :
    scan (enclose e) = [.token e.toList] := by
  rw [scan, toList_enclose, pieces_token h, pieces]
  rfl

variable {p : Path} (scope : Scope)

private theorem resolveValue_token (h : p.IsPlain) (following : String)
    (plain : ∀ c ∈ following.toList, Text.isBlank c = false ∧ c ≠ '{' ∧ c ≠ '}') :
    resolveValue scope (.string (p.token following)) =
      (lookup scope.context (p.display ++ following)).andThen (expandWith (resolveWithin scope 9)) := by
  have brace : ∀ c ∈ (p.display ++ following).toList, c ≠ '{' ∧ c ≠ '}' := by
    intro c hc
    rw [String.toList_append, List.mem_append] at hc
    exact hc.elim (Path.no_brace_of_mem_display h.legible) fun after => (plain c after).2
  have simple : IsSimple (p.display ++ following).toList :=
    { opens := fun inside => (brace _ inside).1 rfl
      closes := fun inside => (brace _ inside).2 rfl
      reference := by rw [String.toList_append, Path.toList_display]; rfl }
  have scanned : scan (p.token following) = [.token (p.display ++ following).toList] := scan_token simple
  have tokens : hasTokens (p.token following) = true := by
    rw [hasTokens, scanned]
    rfl
  have unnamed : variableName? (p.token following) = none := by
    rw [variableName?, Path.token, toList_enclose]
    rfl
  have inner : hasTokens (p.display ++ following) = false :=
    any_isToken_pieces simple.opens
  have depth : maxDepth = 9 + 1 := rfl
  rw [resolveValue, expandWith, isLive, tokens, Bool.true_or, if_pos rfl, resolve, depth,
    resolveWithin_of_lone unnamed tokens (by rw [scanned]; rfl), evaluateWith, String.ofList_toList,
    inner, if_neg Bool.false_ne_true, Path.trim_display h.legible fun c hc => (plain c hc).1]

private theorem andThen_expandWith {resolve : String → Resolution Json} {v : Json}
    (dead : ∀ t ∈ v.texts, isLive t = false) (lines : List String) :
    Resolution.andThen (.ok ⟨v, lines⟩) (expandWith resolve) = .ok ⟨v, lines⟩ := by
  simp only [Resolution.andThen, expandWith_of_not_live dead, Resolution.silent, List.append_nil]

variable {items : List Json}

private theorem resolveValue_place (h : p.IsPlain)
    (hitems : scope.context.get? p = some (.array items))
    (dead : ∀ t ∈ Json.textsOfItems items, isLive t = false) :
    resolveValue scope (.string (p.token "")) = .silent (.array items) := by
  have token := resolveValue_token scope h "" (by simp)
  have alone : p.display ++ "" = p.display := String.append_empty
  rw [alone] at token
  rw [token, lookup, Context.query_of_get? h.legible hitems]
  exact andThen_expandWith (v := .array _) dead []

/-- What is looked up where several parts are meant: a list of them. But a single part is the value
itself, and where there is none, the value is the empty text, and a line is logged. -/
private def together (path : String) : List Json → Resolution Json
  | [] => .ok ⟨.string "", [notFoundLine path]⟩
  | [item] => .silent item
  | items => .silent (.array items)

private theorem resolveValue_all (h : p.IsPlain)
    (hitems : scope.context.get? p = some (.array items))
    (dead : ∀ t ∈ Json.textsOfItems items, isLive t = false) :
    resolveValue scope (.string (p.token "[*]")) = together (p.display ++ "[*]") items := by
  have found : scope.context.query (p.display ++ "[*]") = .ok items := by
    obtain ⟨tree, hroot, htree⟩ := Option.bind_eq_some_iff.mp hitems
    rw [Context.query_display_all h.legible, hroot, Option.toList_some, List.flatMap_singleton,
      Json.findsAll_of_get? htree]
    exact congrArg Except.ok (List.flatMap_singleton _ _)
  rw [resolveValue_token scope h "[*]" (by simp [Text.isBlank]), lookup, found]
  rcases items with _ | ⟨item, _ | ⟨second, rest⟩⟩
  · exact andThen_expandWith (by decide +kernel) _
  · refine andThen_expandWith (fun t ht => dead t ?_) []
    rw [Json.textsOfItems]
    exact List.mem_append_left _ ht
  · exact andThen_expandWith (v := .array (item :: second :: rest)) dead []

end Token

open Exec

namespace Exec

variable {α β : Type} {w : Surroundings} {s s' : RunState}

private theorem bind_congr_at {x y : Exec α} (h : x w s = y w s) (f : α → Exec β) :
    (x >>= f) w s = (y >>= f) w s := by
  rcases hy : y w s with ⟨(e | a), t⟩
  · rw [bind_of_error hy, bind_of_error (h.trans hy)]
  · rw [bind_of_ok hy, bind_of_ok (h.trans hy)]

private theorem naming_congr_at {x y : Exec α} (h : x w s = y w s) (text : String) :
    naming text x w s = naming text y w s := by
  refine bind_congr_at ?_ _
  simp only [attempt, h]

private theorem agree_of_appends {x : Exec α} (happends : Appends x)
    (hlasting : Lasting (fun _ => True) x) :
    Agree SameButLog Eq x x := by
  intro w s s' hs
  obtain ⟨l, hl⟩ := hs.context
  obtain rfl : s' = s.withLog l := by rw [hs.world, hl]; rfl
  rcases hx : x w s with ⟨r, t⟩
  have lasts : r ≠ .error .exhausted := fun given =>
    hlasting w s trivial ⟨_, t, rfl, hx.trans (by rw [given])⟩
  obtain ⟨logged, -, follow⟩ := happends w s r t hx lasts
  rw [follow l]
  cases r with
  | error e => exact ⟨rfl, rfl, _, rfl⟩
  | ok a => exact ⟨rfl, rfl, _, rfl⟩

private theorem endAlike_refl (r : Except Stop α × RunState) : EndAlike SameButLog Eq r r := by
  rcases r with ⟨(e | a), t⟩
  · exact ⟨rfl, rfl, .refl _⟩
  · exact ⟨rfl, rfl, .refl _⟩

private theorem EndAlike.naming {C : Context → Context → Prop} {Q : α → β → Prop} {x : Exec α}
    {y : Exec β} (h : EndAlike C Q (x w s) (y w s')) (text : String) :
    EndAlike C Q (naming text x w s) (naming text y w s') := by
  rcases hx : x w s with ⟨(e | a), u⟩ <;> rcases hy : y w s' with ⟨(e' | b), u'⟩ <;> rw [hx, hy] at h
  · obtain ⟨rfl, beside⟩ := h
    cases e with
    | fault f =>
      rw [naming_of_fault hx, naming_of_fault hy]
      exact ⟨rfl, beside⟩
    | breakdown _ | cancelled _ | exhausted =>
      rw [naming_of_stop hx (by simp), naming_of_stop hy (by simp)]
      exact ⟨rfl, beside⟩
  · exact h.elim
  · exact h.elim
  · rw [naming_eq_ok.mpr hx, naming_eq_ok.mpr hy]
    exact h

end Exec

namespace Step

/-- Two results of a step that differ in its lines alone. -/
def AlikeButLines (r r' : StepResult) : Prop := r' = { r with logs := r'.logs }

private theorem agree_complete (frame : StepFrame) (outcome : Outcome) :
    Agree SameButLog AlikeButLines (complete frame outcome) (complete frame outcome) := by
  have lasting := ordinary_lasting fun _ => True
  refine (agree_of_appends (working_appends.saveAll _ _ _) (lasting.working.saveAll _ _ _)).bind ?_
  rintro changes _ rfl
  refine (agree_of_appends (working_appends.checks _) (lasting.working.checks _)).bind ?_
  rintro findings _ rfl
  have taken : Agree SameButLog (fun _ _ => True) takeLog takeLog := by
    intro w s s' hs
    obtain ⟨l, hl⟩ := hs.context
    rw [takeLog_run, takeLog_run, hs.world, hl]
    exact ⟨trivial, rfl, _, rfl⟩
  exact taken.bind fun lines lines' _ => agree_pure rfl

end Step

namespace Each

variable {w : Surroundings} {s u : RunState} {source source' : Json} {items : List Json}
  {itemKey indexKey : String} {body other : LoopBody}

private theorem run_congr
    (h : Token.resolveValue (scope w s) source = Token.resolveValue (scope w s) source') :
    run source itemKey indexKey body w s = run source' itemKey indexKey body w s := by
  refine bind_congr_at ?_ _
  cases hvalue : Token.resolveValue (scope w s) source with
  | error e =>
    exact (resolving_of_error hvalue).trans (resolving_of_error (h.symm.trans hvalue)).symm
  | ok r => exact (resolving_of_ok hvalue).trans (resolving_of_ok (h.symm.trans hvalue)).symm

private theorem resolveValue_of_not_live {v : Json} (dead : ∀ t ∈ v.texts, Token.isLive t = false) :
    Exec.resolveValue v w s = (.ok v, s) := by
  have resolved : Exec.resolveValue v w s = _ := resolving_of_ok (Token.expandWith_of_not_live dead)
  rw [resolved, Context.logLines, List.append_nil]

private theorem run_eq_of_opens (h : Opens w s source items u)
    (dead : ∀ t ∈ Json.textsOfItems items, Token.isLive t = false) :
    run source itemKey indexKey body w s = run (.array items) itemKey indexKey body w u := by
  obtain ⟨v, lines, hv, hitems, rfl⟩ := h
  have resolved : Exec.resolveValue source w s = _ := resolving_of_ok hv
  rw [run, bind_of_ok resolved, run, bind_of_ok (resolveValue_of_not_live (v := .array items) dead)]
  simp only [itemsOf_iff.mp hitems, show items? (.array items) = some items from rfl]

private theorem run_nil (itemKey indexKey : String) (body other : LoopBody) :
    run (.array []) itemKey indexKey body = run (.array []) itemKey indexKey other := by
  funext w s
  have dead : ∀ t ∈ (Json.array []).texts, Token.isLive t = false := fun _ ht => nomatch ht
  rw [run, bind_of_ok (resolveValue_of_not_live dead), run, bind_of_ok (resolveValue_of_not_live dead)]
  rfl

private theorem agree_run_nil (itemKey indexKey : String) (body : LoopBody) :
    Agree SameButLog Eq (run (.array []) itemKey indexKey body)
      (run (.array []) itemKey indexKey body) := by
  rw [run_nil itemKey indexKey body (pure [])]
  refine agree_of_appends (fun w s => ?_) ?_
  · exact working_appends.each (appends_pure []) _ itemKey indexKey w s
  · exact (ordinary_lasting _).working.each (lasting_of_ok (pure_run [])) _ itemKey indexKey

section Parts

variable {p : Path}

/-- The state in which the rounds over all parts begin: where there are none, a line was logged. -/
private def openAll (p : Path) (items : List Json) (s : RunState) : RunState :=
  match items with
  | [] => { s with context := s.context.logLines [Token.notFoundLine (p.display ++ "[*]")] }
  | _ :: _ => s

private theorem opens_all (h : p.IsPlain) (hitems : s.context.get? p = some (.array items))
    (dead : ∀ t ∈ Json.textsOfItems items, Token.isLive t = false) (several : items.length ≠ 1) :
    Opens w s (.string (p.token "[*]")) items (openAll p items s) := by
  have value := Token.resolveValue_all (scope w s) h hitems dead
  rcases items with _ | ⟨item, _ | ⟨second, rest⟩⟩
  · exact ⟨_, _, value, .blank, rfl⟩
  · exact absurd rfl several
  · exact ⟨_, _, value, .elements _, by rw [Context.logLines, List.append_nil]; rfl⟩

private theorem opens_place (h : p.IsPlain) (hitems : s.context.get? p = some (.array items))
    (dead : ∀ t ∈ Json.textsOfItems items, Token.isLive t = false) :
    Opens w s (.string (p.token "")) items s := by
  have value := Token.resolveValue_place (scope w s) h hitems dead
  exact ⟨_, _, value, .elements _, by rw [Context.logLines, List.append_nil]⟩

private theorem endAlike_all (h : p.IsPlain) (hitems : s.context.get? p = some (.array items))
    (dead : ∀ t ∈ Json.textsOfItems items, Token.isLive t = false) (several : items.length ≠ 1) :
    EndAlike SameButLog Eq (run (.string (p.token "[*]")) itemKey indexKey body w s)
      (run (.string (p.token "")) itemKey indexKey body w s) := by
  rw [run_eq_of_opens (opens_all h hitems dead several) dead,
    run_eq_of_opens (opens_place h hitems dead) dead]
  cases items with
  | nil => exact agree_run_nil itemKey indexKey body w _ s ⟨rfl, s.context.log, rfl⟩
  | cons item rest => exact endAlike_refl _

end Parts

end Each

namespace Step

variable {w : Surroundings} {s : RunState} {step step' : Step}

private theorem endAlike_run (hframe : step.frame = step'.frame)
    (h : ∀ body, EndAlike SameButLog Eq (step.work body w s) (step'.work body w s)) :
    EndAlike SameButLog AlikeButLines (run step w s) (run step' w s) := by
  change EndAlike _ _ (runWithin w.depth step w s) (runWithin w.depth step' w s)
  cases w.depth with
  | zero => exact ⟨rfl, rfl, .refl _⟩
  | succ levels =>
    rw [runWithin, runWithin, runLayer, runLayer, hframe]
    refine ((h _).naming _).bind ?_
    rintro outcome _ u u' rfl beside
    exact agree_complete _ outcome w u u' beside

private theorem run_congr_at (hframe : step.frame = step'.frame)
    (h : ∀ body, step.work body w s = step'.work body w s) : run step w s = run step' w s := by
  change runWithin w.depth step w s = runWithin w.depth step' w s
  cases w.depth with
  | zero => rfl
  | succ levels =>
    rw [runWithin, runWithin, runLayer, runLayer, hframe]
    exact bind_congr_at (naming_congr_at (h _) _) _

/-- A loop over all parts of an array, written as a token with a star, has the items of the array,
starts the same rounds and ends as the loop over the array does, but for its lines. Only a single
part is not put into a list: the step is then the one over the part itself. -/
theorem each_over_all_parts {p : Path} {items : List Json} (h : p.IsPlain)
    (hitems : s.context.get? p = some (.array items))
    (dead : ∀ t ∈ Json.textsOfItems items, Token.isLive t = false)
    (frame : StepFrame) (itemKey indexKey : String) (steps : List Step) :
    (items.length ≠ 1 → ∃ u,
      Each.Opens w s (.string (p.token "[*]")) items u ∧
      Each.Opens w s (.string (p.token "")) items s ∧
      (∀ P Q body, Each.starts P Q body w 0 items u = Each.starts P Q body w 0 items s) ∧
      EndAlike SameButLog AlikeButLines
        (run (.each frame (.string (p.token "[*]")) itemKey indexKey steps) w s)
        (run (.each frame (.string (p.token "")) itemKey indexKey steps) w s)) ∧
    ∀ item, items = [item] →
      run (.each frame (.string (p.token "[*]")) itemKey indexKey steps) w s =
        run (.each frame item itemKey indexKey steps) w s := by
  constructor
  · intro several
    refine ⟨_, Each.opens_all h hitems dead several, Each.opens_place h hitems dead, ?_, ?_⟩
    · intro P Q body
      cases items <;> rfl
    · exact endAlike_run rfl fun body => Each.endAlike_all h hitems dead several
  · rintro item rfl
    have part : ∀ t ∈ item.texts, Token.isLive t = false := fun t ht =>
      dead t (List.mem_append_left _ ht)
    have value := Token.resolveValue_all (scope w s) h hitems dead
    exact run_congr_at rfl fun body =>
      Each.run_congr (value.trans (Token.expandWith_of_not_live part).symm)

/-- A loop with an empty body over the list among the own variables, or over all its parts. -/
def overList (following : String) : Step :=
  .each (.saving []) (.string (Path.token ⟨"ctx", [.key "list"]⟩ following)) "item" "index" []

/-- Over two numbers, both loops do the same. -/
theorem listing_over_all_parts :
    (∃ u, Each.Opens (.still .empty) Each.listing (.string (Path.token ⟨"ctx", [.key "list"]⟩ "[*]"))
      [.int 7, .int 8] u) ∧
    EndAlike SameButLog AlikeButLines (run (overList "[*]") (.still .empty) Each.listing)
      (run (overList "") (.still .empty) Each.listing) := by
  have plain : Path.IsPlain ⟨"ctx", [.key "list"]⟩ := by decide +kernel
  obtain ⟨u, opens, -, -, alike⟩ := (each_over_all_parts (w := .still .empty) (s := Each.listing)
    plain rfl (fun _ ht => nomatch ht) (.saving []) "item" "index" []).1 (by decide)
  exact ⟨⟨u, opens⟩, alike⟩

def lone : RunState :=
  { RunState.initial with
    context := Context.empty.putRoot Context.ctxRoot (.object [("list", .array [.int 5])]) }

/-- Over one number, the loop over the list does a round, and the loop over all its parts faults. -/
theorem lone_over_all_parts :
    lone.context.get? ⟨"ctx", [.key "list"]⟩ = some (.array [.int 5]) ∧
      (∃ r t, run (overList "") (.still .empty) lone = (.ok r, t) ∧ r.inner.length = 1) ∧
      ∃ f t, run (overList "[*]") (.still .empty) lone = (.error (.fault f), t) := by
  have completes : Exec.yields (run (overList "")) (fun r => r.inner.length == 1) (.still .empty)
      lone = true := by decide +kernel
  have breaks : Exec.faults (run (overList "[*]")) (fun _ => true) (.still .empty) lone = true := by
    decide +kernel
  obtain ⟨r, t, hrun, count⟩ := Exec.exists_of_yields completes
  obtain ⟨f, u, hfault, -⟩ := Exec.exists_of_faults breaks
  exact ⟨rfl, ⟨r, t, hrun, by simpa using count⟩, f, u, hfault⟩

end Step

end Assay
