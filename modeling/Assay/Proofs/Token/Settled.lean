/- digest: What resolution leaves: unless a text was nested too deeply, no text in the result holds
   a token any more, and where none names a variable of the process either, a second resolution
   changes nothing. -/

import Assay.Token.Resolve

set_option autoImplicit false
set_option relaxedAutoImplicit false

namespace Assay

namespace Json

mutual

/-- The texts in a value at any depth. The names of members are none of them. -/
def texts : Json → List String
  | .string s => [s]
  | .array items => textsOfItems items
  | .object members => textsOfMembers members
  | _ => []

def textsOfItems : List Json → List String
  | [] => []
  | v :: rest => texts v ++ textsOfItems rest

def textsOfMembers : List (String × Json) → List String
  | [] => []
  | (_, v) :: rest => texts v ++ textsOfMembers rest

end

end Json

namespace Token

private def Settled (v : Json) : Prop := ∀ s ∈ v.texts, hasTokens s = false

@[simp] theorem settled_string {s : String} : Settled (.string s) ↔ hasTokens s = false := by
  simp [Settled, Json.texts]

theorem any_isToken_withLiteral (backwards : List Char) (parts : List Piece) :
    (withLiteral backwards parts).any Piece.isToken = parts.any Piece.isToken := by
  cases backwards with
  | nil => rfl
  | cons c rest => simp [withLiteral, Piece.isToken]

theorem any_isToken_pieces {backwards cs : List Char} (h : '{' ∉ cs) :
    (pieces backwards cs).any Piece.isToken = false := by
  fun_induction pieces backwards cs with
  | case1 backwards => simp [any_isToken_withLiteral]
  | case2 backwards c => simp [any_isToken_withLiteral]
  | case3 backwards c d rest hopen _ => simp [hopen.1] at h
  | case4 backwards c d rest hopen _ _ _ _ => simp [hopen.1] at h
  | case5 backwards c d rest hopen _ _ _ _ _ => simp [hopen.1] at h
  | case6 backwards c d rest _ ih => exact ih fun inside => h (List.mem_cons_of_mem c inside)

theorem pieces_cons_cons {backwards rest : List Char} {c d : Char} (h : ¬ (c = '{' ∧ d = '{')) :
    pieces backwards (c :: d :: rest) = pieces (c :: backwards) (d :: rest) := by
  rw [pieces, if_neg h]

theorem exists_of_variableName? {text name : String} (h : variableName? text = some name) :
    ∃ c cs, text.toList = '$' :: '{' :: c :: cs ∧ '{' ∉ c :: cs := by
  unfold variableName? at h
  split at h
  · rename_i rest htext
    split at h
    · rename_i backwards hrest
      split at h
      · cases h
      · rename_i plain
        obtain rfl : rest = backwards.reverse ++ ['}'] := by
          rw [← List.reverse_reverse rest, hrest, List.reverse_cons]
        simp only [Bool.or_eq_true, List.isEmpty_iff, List.any_eq_true, not_or, not_exists,
          not_and] at plain
        have none : '{' ∉ backwards.reverse ++ ['}'] := by
          intro inside
          rcases List.mem_append.mp inside with before | last
          · exact (plain.2 '{' (List.mem_reverse.mp before)).1.1 (by decide)
          · simp at last
        obtain ⟨c, cs, hcs⟩ := List.exists_cons_of_ne_nil (l := backwards.reverse ++ ['}']) (by simp)
        rw [hcs] at htext none
        exact ⟨c, cs, htext, none⟩
    · cases h
  · cases h

theorem hasTokens_of_variableName? {text name : String} (h : variableName? text = some name) :
    hasTokens text = false := by
  obtain ⟨c, cs, htext, none⟩ := exists_of_variableName? h
  have differs : c ≠ '{' := fun equal => none (equal ▸ List.mem_cons_self)
  rw [hasTokens, scan, htext, pieces_cons_cons (by simp), pieces_cons_cons (by simp [differs])]
  exact any_isToken_pieces none

/-- Where a resolution logs no line about text that is nested too deeply, its value has a property.
-/
private def Resolution.Yields {α : Type} (P : α → Prop) (x : Resolution α) : Prop :=
  ∀ r, x = .ok r → (∀ text, tooDeepLine text ∉ r.lines) → P r.value

namespace Resolution

variable {α β : Type} {P : α → Prop} {Q : β → Prop}

private theorem yields_silent {a : α} (h : P a) : Yields P (silent a) := by
  rintro r equal -
  cases equal
  exact h

private theorem yields_true (x : Resolution α) : Yields (fun _ => True) x := fun _ _ _ => trivial

private theorem Yields.andThen {x : Resolution α} {go : α → Resolution β} (hx : Yields P x)
    (hgo : ∀ a, P a → Yields Q (go a)) : Yields Q (x.andThen go) := by
  intro r hr hlines
  cases x with
  | error e => cases hr
  | ok first =>
    simp only [Resolution.andThen] at hr
    split at hr
    · cases hr
    · rename_i second hsecond
      cases hr
      simp only [List.mem_append, not_or] at hlines
      exact hgo first.value (hx first rfl fun text => (hlines text).1) second hsecond
        fun text => (hlines text).2

private theorem Yields.onValue {x : Resolution α} {f : α → β} (hx : Yields P x)
    (hf : ∀ a, P a → Q (f a)) :
    Yields Q (x.onValue f) := by
  intro r hr hlines
  cases x with
  | error e => cases hr
  | ok first =>
    cases hr
    exact hf first.value (hx first rfl hlines)

end Resolution

open Resolution

section Expansion

variable {resolve : String → Resolution Json}

mutual

private theorem yields_expandWith (h : ∀ s, Yields Settled (resolve s)) :
    ∀ v, Yields Settled (expandWith resolve v)
  | .string s => by
    unfold expandWith
    split
    · exact h s
    · rename_i dead
      simp only [isLive, Bool.or_eq_true, not_or, Bool.not_eq_true] at dead
      exact yields_silent (settled_string.mpr dead.1)
  | .array items => by
    unfold expandWith
    exact (yields_expandItems h items).onValue fun _ settled => settled
  | .object members => by
    unfold expandWith
    exact (yields_expandMembers h members).onValue fun _ settled => settled
  | .null => yields_silent (by simp [Settled, Json.texts])
  | .bool _ => yields_silent (by simp [Settled, Json.texts])
  | .number _ => yields_silent (by simp [Settled, Json.texts])

theorem yields_expandItems (h : ∀ s, Yields Settled (resolve s)) :
    ∀ items, Yields (fun r => Settled (.array r)) (expandItems resolve items)
  | [] => yields_silent (by simp [Settled, Json.texts, Json.textsOfItems])
  | v :: rest => by
    refine (yields_expandWith h v).andThen fun first hfirst => ?_
    refine (yields_expandItems h rest).onValue fun others hothers => ?_
    simp only [Settled, Json.texts, Json.textsOfItems, List.mem_append] at hfirst hothers ⊢
    rintro s (inside | inside)
    · exact hfirst s inside
    · exact hothers s inside

theorem yields_expandMembers (h : ∀ s, Yields Settled (resolve s)) :
    ∀ members, Yields (fun r => Settled (.object r)) (expandMembers resolve members)
  | [] => yields_silent (by simp [Settled, Json.texts, Json.textsOfMembers])
  | (k, v) :: rest => by
    refine (yields_expandWith h v).andThen fun first hfirst => ?_
    refine (yields_expandMembers h rest).onValue fun others hothers => ?_
    simp only [Settled, Json.texts, Json.textsOfMembers, List.mem_append] at hfirst hothers ⊢
    rintro s (inside | inside)
    · exact hfirst s inside
    · exact hothers s inside

end

mutual

/-- A value without live texts expands to itself, and nothing is logged. -/
theorem expandWith_of_not_live :
    ∀ {v : Json}, (∀ s ∈ v.texts, isLive s = false) → expandWith resolve v = .silent v
  | .string s, h => by simp [expandWith, h s (by simp [Json.texts])]
  | .array items, h => by
    rw [expandWith, expandItems_of_not_live h]
    rfl
  | .object members, h => by
    rw [expandWith, expandMembers_of_not_live h]
    rfl
  | .null, _ => rfl
  | .bool _, _ => rfl
  | .number _, _ => rfl

theorem expandItems_of_not_live : ∀ {items : List Json},
    (∀ s ∈ Json.textsOfItems items, isLive s = false) → expandItems resolve items = .silent items
  | [], _ => rfl
  | v :: rest, h => by
    simp only [Json.textsOfItems, List.mem_append] at h
    rw [expandItems, expandWith_of_not_live fun s inside => h s (Or.inl inside),
      expandItems_of_not_live fun s inside => h s (Or.inr inside)]
    rfl

theorem expandMembers_of_not_live : ∀ {members : List (String × Json)},
    (∀ s ∈ Json.textsOfMembers members, isLive s = false) →
      expandMembers resolve members = .silent members
  | [], _ => rfl
  | (k, v) :: rest, h => by
    simp only [Json.textsOfMembers, List.mem_append] at h
    rw [expandMembers, expandWith_of_not_live fun s inside => h s (Or.inl inside),
      expandMembers_of_not_live fun s inside => h s (Or.inr inside)]
    rfl

end

end Expansion

section Level

variable {scope : Scope} {levels : Nat} {text : String}

private theorem resolveWithin_of_variable {name : String} (h : variableName? text = some name) :
    resolveWithin scope levels text =
      .silent (.string ((scope.processVariable name).getD text)) := by
  unfold resolveWithin
  simp only [h]

theorem resolveWithin_of_plain (hname : variableName? text = none) (h : hasTokens text = false) :
    resolveWithin scope levels text = .silent (.string text) := by
  unfold resolveWithin
  simp only [hname, show (scan text).any Piece.isToken = false from h, Bool.not_false, if_true]

theorem resolveWithin_zero (hname : variableName? text = none) (h : hasTokens text = true) :
    resolveWithin scope 0 text = .ok ⟨.string text, [tooDeepLine text]⟩ := by
  unfold resolveWithin
  simp [hname, show (scan text).any Piece.isToken = true from h]

theorem resolveWithin_of_lone {e : List Char} (hname : variableName? text = none)
    (h : hasTokens text = true) (hlone : onlyToken? (scan text) = some e) :
    resolveWithin scope (levels + 1) text =
      (evaluateWith scope.context (resolveWithin scope levels) (String.ofList e)).andThen
        (expandWith (resolveWithin scope levels)) := by
  rw [resolveWithin]
  simp [hname, show (scan text).any Piece.isToken = true from h, hlone]

theorem resolveWithin_of_mixed (hname : variableName? text = none) (h : hasTokens text = true)
    (hmixed : onlyToken? (scan text) = none) :
    resolveWithin scope (levels + 1) text =
      (splice (evaluateWith scope.context (resolveWithin scope levels)) (scan text)).andThen
        fun spliced =>
          if hasTokens spliced then resolveWithin scope levels spliced
          else .silent (.string spliced) := by
  rw [resolveWithin]
  simp [hname, show (scan text).any Piece.isToken = true from h, hmixed]

end Level

/-- No variable of the process has a value with a token in it. -/
def PlainVariables (processVariable : String → Option String) : Prop :=
  ∀ name value, processVariable name = some value → hasTokens value = false

section Resolutions

variable {scope : Scope}

private theorem PlainVariables.settled {processVariable : String → Option String}
    {text name : String}
    (h : PlainVariables processVariable) (hname : variableName? text = some name) :
    Settled (.string ((processVariable name).getD text)) := by
  rw [settled_string]
  cases hvalue : processVariable name with
  | none => exact hasTokens_of_variableName? hname
  | some value => exact h name value hvalue

private theorem yields_resolveWithin_of_tokens {levels : Nat} {text : String}
    (hplain : PlainVariables scope.processVariable)
    (h : variableName? text = none → hasTokens text = true →
      Yields Settled (resolveWithin scope levels text)) :
    Yields Settled (resolveWithin scope levels text) := by
  cases hname : variableName? text with
  | some name =>
    rw [resolveWithin_of_variable hname]
    exact yields_silent (hplain.settled hname)
  | none =>
    cases htokens : hasTokens text with
    | false =>
      rw [resolveWithin_of_plain hname htokens]
      exact yields_silent (settled_string.mpr htokens)
    | true => exact h hname htokens

private theorem yields_resolveWithin (hplain : PlainVariables scope.processVariable) (levels : Nat)
    (text : String) : Yields Settled (resolveWithin scope levels text) := by
  induction levels generalizing text with
  | zero =>
    refine yields_resolveWithin_of_tokens hplain fun hname htokens => ?_
    rw [resolveWithin_zero hname htokens]
    intro r hr hlines
    cases hr
    exact absurd (List.mem_singleton_self _) (hlines text)
  | succ levels ih =>
    refine yields_resolveWithin_of_tokens hplain fun hname htokens => ?_
    cases hlone : onlyToken? (scan text) with
    | some e =>
      rw [resolveWithin_of_lone hname htokens hlone]
      exact (yields_true _).andThen fun v _ => yields_expandWith ih v
    | none =>
      rw [resolveWithin_of_mixed hname htokens hlone]
      refine (yields_true _).andThen fun spliced _ => ?_
      split
      · exact ih spliced
      · rename_i none
        exact yields_silent (settled_string.mpr (by simpa using none))

/-- Where a value resolves without a text that is nested too deeply, no text in the result holds a
token any more; and if none of them names a variable of the process, the result resolves to itself
in every scope, and nothing is logged. -/
theorem resolveValue_settles {v : Json} {r : Logged Json}
    (hplain : PlainVariables scope.processVariable) (h : resolveValue scope v = .ok r)
    (hlines : ∀ text, tooDeepLine text ∉ r.lines) :
    (∀ s ∈ r.value.texts, hasTokens s = false) ∧
      ((∀ s ∈ r.value.texts, variableName? s = none) →
        ∀ again : Scope, resolveValue again r.value = .ok ⟨r.value, []⟩) := by
  have settled : Settled r.value :=
    yields_expandWith (yields_resolveWithin hplain maxDepth) v r h hlines
  refine ⟨settled, fun hnames again => expandWith_of_not_live fun s inside => ?_⟩
  simp [isLive, settled s inside, hnames s inside]

end Resolutions

def Resolution.passes {α : Type} (test : Logged α → Bool) : Resolution α → Bool
  | .ok r => test r
  | .error _ => false

private theorem Resolution.exists_of_passes {α : Type} {x : Resolution α} {test : Logged α → Bool}
    (h : x.passes test = true) : ∃ r, x = .ok r ∧ test r = true := by
  cases x with
  | error e => cases h
  | ok r => exact ⟨r, rfl, h⟩

/-- Values that refer to each other, and half of a token. -/
def entangled : Scope :=
  { context := (Context.withEnv (.object [])).putRoot Context.ctxRoot
      (.object [("index", .nat 1), ("name", .string "n"), ("open", .string "\x7b\x7b$.ctx"),
        ("items", .array [.null, .object [("deep", .string "{{$.ctx.name}}")]])])
    processVariable := fun name => if name = "USER" then some "u" else none }

/-- A token inside the path of a token, a token that comes about by splicing, and a variable of the
process. -/
def entangledTexts : Json :=
  .object [("nested", .string "{{$.ctx.items[{{$.ctx.index}}]}}"),
    ("spliced", .array [.string "\x7b\x7b$.ctx.open\x7d\x7d.name\x7d\x7d"]),
    ("variable", .string "${USER}")]

/-- They resolve to plain texts, which resolve to themselves. -/
theorem entangled_settles : ∃ r, resolveValue entangled entangledTexts = .ok r ∧
    (∀ text, tooDeepLine text ∉ r.lines) ∧ r.value.texts = ["n", "n", "u"] ∧
    (∀ s ∈ r.value.texts, hasTokens s = false) ∧
    ∀ again : Scope, resolveValue again r.value = .ok ⟨r.value, []⟩ := by
  have evaluated : (resolveValue entangled entangledTexts).passes
      (fun r => r.lines.isEmpty && r.value.texts == ["n", "n", "u"]) = true := by decide +kernel
  obtain ⟨r, h, passed⟩ := Resolution.exists_of_passes evaluated
  obtain ⟨hlines, htexts⟩ : r.lines = [] ∧ r.value.texts = ["n", "n", "u"] := by simpa using passed
  have hplain : PlainVariables entangled.processVariable := by
    intro name value hvalue
    obtain ⟨-, rfl⟩ : name = "USER" ∧ "u" = value := by simpa [entangled] using hvalue
    decide +kernel
  have quiet (text : String) : tooDeepLine text ∉ r.lines := by simp [hlines]
  obtain ⟨settled, stable⟩ := resolveValue_settles hplain h quiet
  exact ⟨r, h, quiet, htexts, settled, stable (by rw [htexts]; decide +kernel)⟩

end Token

end Assay
