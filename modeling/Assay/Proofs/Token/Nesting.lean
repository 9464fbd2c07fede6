/- digest: How deep references are followed: a chain of places that refer to each other gives the
   value at its end if that is at most ten expansions away, and after ten expansions any longer
   chain, and any cycle, stops at the text that stands there then, with one line. -/

import Assay.Proofs.Token.Lone
import Mathlib.Tactic.IntervalCases

set_option autoImplicit false
set_option relaxedAutoImplicit false

namespace Assay.Token

open Resolution (silent)

/-- The text that is the token for a place and nothing else. -/
def reference (p : Path) : String := enclose p.display

/-- A place holds the token for another. -/
def Refers (c : Context) (p q : Path) : Prop := c.get? p = some (.string (reference q))

variable {scope : Scope} {levels : Nat} {p q : Path} {v : Json}

private def tight : Spacing := ⟨"", "", "", "", by decide⟩

private theorem token_tight (p : Path) : tight.token p = reference p := by
  simp [Spacing.token, Spacing.inside, tight, reference]

private theorem hasTokens_reference (h : p.IsLegible) : hasTokens (reference p) = true :=
  token_tight p ▸ tight.hasTokens_token h

private theorem variableName?_reference (h : p.IsLegible) : variableName? (reference p) = none :=
  token_tight p ▸ tight.variableName?_token h

private theorem resolveWithin_reference_zero (h : p.IsLegible) :
    resolveWithin scope 0 (reference p) =
    .ok ⟨.string (reference p), [tooDeepLine (reference p)]⟩ :=
  resolveWithin_zero (variableName?_reference h) (hasTokens_reference h)

private theorem resolveWithin_reference (h : p.IsLegible) (hv : scope.context.get? p = some v) :
    resolveWithin scope (levels + 1) (reference p) = expandWith (resolveWithin scope levels) v := by
  rw [resolveWithin_of_lone (variableName?_reference h) (hasTokens_reference h)
    (token_tight p ▸ tight.onlyToken?_token h), String.ofList_toList, tight.evaluateWith_inside h hv,
    Resolution.silent_andThen]

private theorem resolveWithin_of_refers (hp : p.IsLegible) (hq : q.IsLegible)
    (h : Refers scope.context p q) :
    resolveWithin scope (levels + 1) (reference p) = resolveWithin scope levels (reference q) := by
  rw [resolveWithin_reference hp h, expandWith, isLive, hasTokens_reference hq, Bool.true_or, if_pos rfl]

/-- The first places of a sequence refer each to the next one. -/
structure IsChain (c : Context) (place : Nat → Path) (length : Nat) : Prop where
  legible : ∀ i ≤ length, (place i).IsLegible
  refers : ∀ i < length, Refers c (place i) (place (i + 1))

variable {place : Nat → Path} {length : Nat}

private theorem IsChain.tail (h : IsChain scope.context place (length + 1)) :
    IsChain scope.context (fun i => place (i + 1)) length where
  legible i hi := h.legible (i + 1) (by omega)
  refers i hi := h.refers (i + 1) (by omega)

private theorem IsChain.take {shorter : Nat} (h : IsChain scope.context place length)
    (le : shorter ≤ length) :
    IsChain scope.context place shorter where
  legible i hi := h.legible i (by omega)
  refers i hi := h.refers i (by omega)

private theorem IsChain.resolveWithin_head (h : IsChain scope.context place (length + 1)) :
    resolveWithin scope (levels + 1) (reference (place 0)) =
      resolveWithin scope levels (reference (place 1)) :=
  resolveWithin_of_refers (h.legible 0 (by omega)) (h.legible 1 (by omega)) (h.refers 0 (by omega))

private theorem IsChain.resolveWithin_of_short (h : IsChain scope.context place length)
    (short : length < levels)
    (held : scope.context.get? (place length) = some v) (plain : ∀ s ∈ v.texts, isLive s = false) :
    resolveWithin scope levels (reference (place 0)) = silent v := by
  obtain ⟨levels, rfl⟩ := Nat.exists_eq_add_one_of_ne_zero (Nat.ne_zero_of_lt short)
  induction length generalizing place levels with
  | zero => rw [resolveWithin_reference (h.legible 0 (by omega)) held, expandWith_of_not_live plain]
  | succ length ih =>
    obtain ⟨levels, rfl⟩ := Nat.exists_eq_add_one_of_ne_zero (n := levels) (by omega)
    have tail := ih h.tail held levels (by omega)
    rw [h.resolveWithin_head, tail]

private theorem IsChain.resolveWithin_of_long (h : IsChain scope.context place levels) :
    resolveWithin scope levels (reference (place 0)) =
      .ok ⟨.string (reference (place levels)), [tooDeepLine (reference (place levels))]⟩ := by
  induction levels generalizing place with
  | zero => exact resolveWithin_reference_zero (h.legible 0 (by omega))
  | succ levels ih =>
    have tail := ih h.tail
    rw [h.resolveWithin_head, tail]

/-- The place with a number among the variables of a case: `$.ctx.a1`, `$.ctx.a2` and so on. -/
def numbered (i : Nat) : Path := .child Context.ctxRoot ("a" ++ toString i)

private theorem isLegible_numbered (i : Nat) : (numbered i).IsLegible := by
  have root : Text.isPlainName Context.ctxRoot = true := by decide
  refine ⟨root, fun s inside => ?_⟩
  obtain rfl := List.mem_singleton.mp inside
  refine Text.isPlainName_iff.mpr ⟨by simp, fun c hc => ?_⟩
  rw [String.toList_append, Nat.toString_eq_ofList_toDigits,
    String.toList_ofList (l := Nat.toDigits 10 i), List.mem_append] at hc
  rcases hc with letter | digit
  · obtain rfl := List.mem_singleton.mp letter
    decide
  · exact Text.isNameChar_of_isDigit (Text.isDigit_of_mem_toDigits digit)

private theorem reference_numbered (i : Nat) :
    reference (numbered i) = enclose ("$.ctx.a" ++ toString i) := by
  have plain : Text.isPlainName ("a" ++ toString i) = true :=
    (isLegible_numbered i).segments _ (List.mem_singleton_self _)
  have shown : Segment.display (.key ("a" ++ toString i)) = "." ++ ("a" ++ toString i) := if_pos plain
  refine congrArg enclose ?_
  rw [numbered, Path.child, Path.display, List.map_singleton, shown]
  simp [String.join, Context.ctxRoot, ← String.toList_inj]

/-- Places in a circle, each of which refers to the next one; after the last comes the first. -/
structure IsCycle {n : Nat} (c : Context) (place : Fin (n + 1) → Path) : Prop where
  legible : ∀ i, (place i).IsLegible
  refers : ∀ i, Refers c (place i) (place (i + 1))

private theorem IsCycle.isChain {n : Nat} {c : Context} {place : Fin (n + 1) → Path}
    (h : IsCycle c place)
    (i : Fin (n + 1)) (length : Nat) : IsChain c (fun k => place (i + Fin.ofNat (n + 1) k)) length where
  legible k _ := h.legible _
  refers k _ := by
    have next : i + Fin.ofNat (n + 1) (k + 1) = i + Fin.ofNat (n + 1) k + 1 := by
      have one : (1 : Fin (n + 1)) = Fin.ofNat (n + 1) 1 := rfl
      rw [one, Fin.ext_iff]
      simp [Fin.val_add, Nat.add_assoc]
    rw [next]
    exact h.refers _

/-- Of places `$.ctx.a1` to `$.ctx.an` that refer each to the next one, the first leads to the value
at the last if this is at most the tenth, provided that no text in the value is replaced in its
turn; and else to the text for the eleventh, with one line. Any place in a cycle leads to the text
that is reached after ten expansions, the one that the tenth place holds, with one line. -/
theorem expansion_stops_after_ten (scope : Scope) :
    (∀ (n : Nat) (v : Json), 1 ≤ n →
      (∀ i, 1 ≤ i → i < n → scope.context.get? (numbered i) =
        some (.string (enclose ("$.ctx.a" ++ toString (i + 1))))) →
      scope.context.get? (numbered n) = some v →
      (∀ s ∈ v.texts, hasTokens s = false ∧ variableName? s = none) →
      (n ≤ 10 → resolve scope "{{$.ctx.a1}}" = silent v) ∧
      (10 < n → resolve scope "{{$.ctx.a1}}" =
        .ok ⟨.string "{{$.ctx.a11}}", [tooDeepLine "{{$.ctx.a11}}"]⟩)) ∧
    ∀ (n : Nat) (place : Fin (n + 1) → Path), IsCycle scope.context place → ∀ i : Fin (n + 1),
      resolve scope (reference (place i)) =
        .ok ⟨.string (reference (place (i + 10))), [tooDeepLine (reference (place (i + 10)))]⟩ := by
  constructor
  · intro n v positive refers held plain
    obtain ⟨length, rfl⟩ := Nat.exists_eq_add_one_of_ne_zero (Nat.ne_zero_of_lt positive)
    have chain : IsChain scope.context (fun i => numbered (i + 1)) length := by
      refine ⟨fun i _ => isLegible_numbered (i + 1), fun i hi => ?_⟩
      rw [Refers, reference_numbered]
      exact refers (i + 1) (by omega) (by omega)
    have dead : ∀ s ∈ v.texts, isLive s = false := by
      intro s inside
      rw [isLive, (plain s inside).1, (plain s inside).2]
      rfl
    have first : "{{$.ctx.a1}}" = reference (numbered 1) := (reference_numbered 1).symm
    have last : "{{$.ctx.a11}}" = reference (numbered 11) := (reference_numbered 11).symm
    rw [first, last]
    exact ⟨fun short => chain.resolveWithin_of_short (Nat.lt_of_succ_le short) held dead,
      fun long => (chain.take (Nat.le_of_lt_succ long)).resolveWithin_of_long⟩
  · intro n place cycle i
    have followed := (cycle.isChain i 10).resolveWithin_of_long
    simp only [Fin.ofNat_zero, Fin.add_zero] at followed
    exact followed

/-- Numbered places, of which the last holds a number and each other one refers to the next. -/
def ladder (n : Nat) : Scope :=
  ⟨Context.empty.putRoot "ctx" (.object ((List.range' 1 n).map fun i =>
      ("a" ++ toString i, if i = n then .nat 7 else .string (reference (numbered (i + 1)))))), fun _ => none⟩

def circle (i : Fin 3) : Path := numbered (i + 1)

def circling : Scope :=
  ⟨Context.empty.putRoot "ctx" (.object [("a1", .string (reference (numbered 2))),
      ("a2", .string (reference (numbered 3))), ("a3", .string (reference (numbered 1)))]), fun _ => none⟩

/-- Ten numbered places lead to the number and eleven do not. In a circle of three, ten expansions
go three times around and one place on. -/
theorem ladder_expansions :
    (∀ i, 1 ≤ i → i < 10 → (ladder 10).context.get? (numbered i) =
      some (.string (enclose ("$.ctx.a" ++ toString (i + 1))))) ∧
    (∀ i, 1 ≤ i → i < 11 → (ladder 11).context.get? (numbered i) =
      some (.string (enclose ("$.ctx.a" ++ toString (i + 1))))) ∧
    (ladder 10).context.get? (numbered 10) = some (.nat 7) ∧
    (ladder 11).context.get? (numbered 11) = some (.nat 7) ∧ IsCycle circling.context circle ∧
    resolve (ladder 10) "{{$.ctx.a1}}" = silent (.nat 7) ∧
    resolve (ladder 11) "{{$.ctx.a1}}" =
      .ok ⟨.string "{{$.ctx.a11}}",
        ["Token nesting exceeded 10 levels, stopped expanding '{{$.ctx.a11}}'"]⟩ ∧
    resolve circling (reference (circle 1)) =
      .ok ⟨.string (reference (circle 2)), [tooDeepLine (reference (circle 2))]⟩ := by
  have ten : ∀ i, 1 ≤ i → i < 10 → (ladder 10).context.get? (numbered i) =
      some (.string (enclose ("$.ctx.a" ++ toString (i + 1)))) := by
    intro i low high
    interval_cases i <;> rfl
  have eleven : ∀ i, 1 ≤ i → i < 11 → (ladder 11).context.get? (numbered i) =
      some (.string (enclose ("$.ctx.a" ++ toString (i + 1)))) := by
    intro i low high
    interval_cases i <;> rfl
  have cycle : IsCycle circling.context circle :=
    ⟨fun i => isLegible_numbered _, fun | 0 => rfl | 1 => rfl | 2 => rfl⟩
  have short := (expansion_stops_after_ten (ladder 10)).1 10 (.nat 7) (by decide) ten rfl (by decide)
  have long := (expansion_stops_after_ten (ladder 11)).1 11 (.nat 7) (by decide) eleven rfl (by decide)
  exact ⟨ten, eleven, rfl, rfl, cycle, short.1 (by decide), long.2 (by decide),
    (expansion_stops_after_ten circling).2 2 circle cycle 1⟩

end Assay.Token
