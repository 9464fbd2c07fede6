/- digest: A token that stands alone keeps its value: with white space around it and inside its
   braces it gives what lies at its place, and wherever it stands in a value, that is what is found
   there afterwards. -/

import Assay.Proofs.Path.Removal
import Assay.Proofs.Token.Splicing

set_option autoImplicit false
set_option relaxedAutoImplicit false

namespace Assay

namespace Token

namespace Resolution

variable {α β : Type} {refusal : Selector.Refusal}

theorem silent_andThen (a : α) (go : α → Resolution β) : (silent a).andThen go = go a := by
  simp only [silent, andThen]
  cases go a <;> rfl

private theorem onValue_eq_ok {f : α → β} {x : Resolution α} {l : Logged β}
    (h : x.onValue f = .ok l) :
    ∃ first, x = .ok first ∧ l = ⟨f first.value, first.lines⟩ := by
  cases x with
  | error e => cases h
  | ok first =>
    cases h
    exact ⟨first, rfl, rfl⟩

private theorem onValue_eq_error {f : α → β} {x : Resolution α} (h : x.onValue f = .error refusal) :
    x = .error refusal := by
  cases x with
  | error e =>
    cases h
    rfl
  | ok first => cases h

private theorem andThen_eq_ok {x : Resolution α} {go : α → Resolution β} {l : Logged β}
    (h : x.andThen go = .ok l) :
    ∃ first second, x = .ok first ∧ go first.value = .ok second ∧
      l = ⟨second.value, first.lines ++ second.lines⟩ := by
  cases x with
  | error e => cases h
  | ok first =>
    rw [andThen] at h
    cases hsecond : go first.value with
    | error e =>
      rw [hsecond] at h
      cases h
    | ok second =>
      rw [hsecond] at h
      cases h
      exact ⟨first, second, rfl, hsecond, rfl⟩

private theorem andThen_eq_error {x : Resolution α} {go : α → Resolution β}
    (h : x.andThen go = .error refusal) :
    x = .error refusal ∨ ∃ first, x = .ok first ∧ go first.value = .error refusal := by
  cases x with
  | error e =>
    cases h
    exact .inl rfl
  | ok first =>
    refine .inr ⟨first, rfl, ?_⟩
    rw [andThen] at h
    cases hsecond : go first.value with
    | error e =>
      rw [hsecond] at h
      cases h
      rfl
    | ok second =>
      rw [hsecond] at h
      cases h

end Resolution

open Resolution

section Expansion

variable {resolve : String → Resolution Json} {old new : Json}

private theorem getElem?_of_expandItems {items : List Json} {r : Logged (List Json)} {i : Nat}
    (h : expandItems resolve items = .ok r) (held : items[i]? = some old) :
    ∃ l, expandWith resolve old = .ok l ∧ r.value[i]? = some l.value := by
  induction items generalizing r i with
  | nil => cases held
  | cons v rest ih =>
    obtain ⟨first, others, hfirst, hothers, rfl⟩ := andThen_eq_ok h
    obtain ⟨later, hlater, rfl⟩ := onValue_eq_ok hothers
    cases i with
    | zero =>
      cases held
      exact ⟨first, hfirst, rfl⟩
    | succ i => exact ih (r := later) hlater held

private theorem get?_of_expandMembers {name : String} {members : List (String × Json)}
    {r : Logged (List (String × Json))} (h : expandMembers resolve members = .ok r)
    (held : Members.get? name members = some old) :
    ∃ l, expandWith resolve old = .ok l ∧ Members.get? name r.value = some l.value := by
  induction members generalizing r with
  | nil => cases held
  | cons m rest ih =>
    obtain ⟨k, v⟩ := m
    obtain ⟨first, others, hfirst, hothers, rfl⟩ := andThen_eq_ok h
    obtain ⟨later, hlater, rfl⟩ := onValue_eq_ok hothers
    rw [Members.get?] at held ⊢
    split at held
    · rename_i same
      cases held
      exact ⟨first, hfirst, if_pos same⟩
    · rename_i other
      rw [if_neg other]
      exact ih hlater held

private theorem child?_of_expandWith {s : Segment} {v : Json} {r : Logged Json}
    (h : expandWith resolve v = .ok r)
    (held : Json.child? s v = some old) :
    ∃ l, expandWith resolve old = .ok l ∧ Json.child? s r.value = some l.value := by
  cases s with
  | key name =>
    cases v with
    | object members =>
      obtain ⟨inner, hinner, rfl⟩ := onValue_eq_ok h
      exact get?_of_expandMembers hinner held
    | _ => cases held
  | index position =>
    cases v with
    | array items =>
      obtain ⟨inner, hinner, rfl⟩ := onValue_eq_ok h
      exact getElem?_of_expandItems hinner held
    | _ => cases held

private theorem get?_of_expandWith {place : List Segment} {v : Json} {r : Logged Json}
    (h : expandWith resolve v = .ok r) (held : Json.get? place v = some old) :
    ∃ l, expandWith resolve old = .ok l ∧ Json.get? place r.value = some l.value := by
  induction place generalizing v r with
  | nil =>
    cases held
    exact ⟨r, h, rfl⟩
  | cons s rest ih =>
    obtain ⟨part, hpart, hrest⟩ := Option.bind_eq_some_iff.mp held
    obtain ⟨inner, hinner, found⟩ := child?_of_expandWith h hpart
    obtain ⟨l, hl, below⟩ := ih hinner hrest
    exact ⟨l, hl, by rw [Json.get?, found, Option.bind_some, below]⟩

private theorem expandItems_set {items : List Json} {i : Nat} (held : items[i]? = some old)
    (alike : expandWith resolve new = expandWith resolve old) :
    expandItems resolve (items.set i new) = expandItems resolve items := by
  induction items generalizing i with
  | nil => cases held
  | cons v rest ih =>
    cases i with
    | zero =>
      cases held
      rw [List.set_cons_zero, expandItems, expandItems, alike]
    | succ i => rw [List.set_cons_succ, expandItems, expandItems, ih held]

private theorem expandMembers_put {name : String} {members : List (String × Json)}
    (held : Members.get? name members = some old) (alike : expandWith resolve new = expandWith resolve old) :
    expandMembers resolve (Members.put name new members) = expandMembers resolve members := by
  induction members with
  | nil => cases held
  | cons m rest ih =>
    obtain ⟨k, v⟩ := m
    rw [Members.get?] at held
    rw [Members.put]
    split at held
    · rename_i same
      cases held
      rw [if_pos same, expandMembers, expandMembers, alike]
    · rename_i other
      rw [if_neg other, expandMembers, expandMembers, ih held]

private theorem expandWith_set_child {s : Segment} {v : Json} (held : Json.child? s v = some old)
    (alike : expandWith resolve new = expandWith resolve old) :
    expandWith resolve (Json.set new [s] v) = expandWith resolve v := by
  cases s with
  | key name =>
    cases v with
    | object members => rw [Json.set_key, Json.membersOrNone, expandWith, expandWith, expandMembers_put held alike]
    | _ => cases held
  | index position =>
    cases v with
    | array items =>
      obtain ⟨inside, -⟩ := List.getElem?_eq_some_iff.mp held
      rw [Json.set_index, Json.itemsOrNone, Json.padTo_of_lt inside, expandWith, expandWith,
        expandItems_set held alike]
    | _ => cases held

private theorem expandWith_set {place : List Segment} {v : Json}
    (held : Json.get? place v = some old)
    (alike : expandWith resolve new = expandWith resolve old) :
    expandWith resolve (Json.set new place v) = expandWith resolve v := by
  induction place generalizing v with
  | nil =>
    cases held
    exact alike
  | cons s rest ih =>
    obtain ⟨part, hpart, hrest⟩ := Option.bind_eq_some_iff.mp held
    by_cases last : rest = []
    · subst last
      cases hrest
      exact expandWith_set_child hpart alike
    · rw [Json.set_cons last, hpart, Json.containerFor_of_get? last hrest]
      exact expandWith_set_child hpart (ih hrest)

mutual

private theorem exists_of_expandWith_error {refusal : Selector.Refusal} :
    ∀ {v : Json}, expandWith resolve v = .error refusal → ∃ s ∈ v.texts, resolve s = .error refusal
  | .string s, h => by
    rw [expandWith] at h
    split at h
    · exact ⟨s, List.mem_singleton_self s, h⟩
    · cases h
  | .array _, h => exists_of_expandItems_error (onValue_eq_error h)
  | .object _, h => exists_of_expandMembers_error (onValue_eq_error h)
  | .null, h => by cases h
  | .bool _, h => by cases h
  | .number _, h => by cases h

theorem exists_of_expandItems_error {refusal : Selector.Refusal} : ∀ {items : List Json},
    expandItems resolve items = .error refusal → ∃ s ∈ Json.textsOfItems items, resolve s = .error refusal
  | [], h => by cases h
  | v :: rest, h => by
    rcases andThen_eq_error h with own | ⟨_, -, later⟩
    · obtain ⟨s, inside, refused⟩ := exists_of_expandWith_error own
      exact ⟨s, List.mem_append_left _ inside, refused⟩
    · obtain ⟨s, inside, refused⟩ := exists_of_expandItems_error (onValue_eq_error later)
      exact ⟨s, List.mem_append_right _ inside, refused⟩

theorem exists_of_expandMembers_error {refusal : Selector.Refusal} :
    ∀ {members : List (String × Json)},
    expandMembers resolve members = .error refusal →
      ∃ s ∈ Json.textsOfMembers members, resolve s = .error refusal
  | [], h => by cases h
  | (_, v) :: rest, h => by
    rcases andThen_eq_error h with own | ⟨_, -, later⟩
    · obtain ⟨s, inside, refused⟩ := exists_of_expandWith_error own
      exact ⟨s, List.mem_append_left _ inside, refused⟩
    · obtain ⟨s, inside, refused⟩ := exists_of_expandMembers_error (onValue_eq_error later)
      exact ⟨s, List.mem_append_right _ inside, refused⟩

end

end Expansion

/-- White space before and after a token, and before and after what stands in its braces. -/
structure Spacing where
  before : String
  opened : String
  closed : String
  after : String
  blank : ∀ text ∈ [before, opened, closed, after], Text.allBlank text = true

namespace Spacing

variable {context : Context} {p : Path} {v : Json} (space : Spacing)

def inside (p : Path) : String := space.opened ++ p.display ++ space.closed

def token (p : Path) : String :=
  space.before ++ enclose (space.inside p) ++ space.after

private theorem isBlank_of_mem {t : String}
    (h : t ∈ [space.before, space.opened, space.closed, space.after])
    {c : Char} (hc : c ∈ t.toList) : Text.isBlank c = true :=
  List.all_eq_true.mp (space.blank t h) c hc

private theorem not_mem_of_visible {text : String}
    (h : text ∈ [space.before, space.opened, space.closed, space.after])
    {c : Char} (visible : Text.isBlank c = false) : c ∉ text.toList := by
  intro hc
  rw [space.isBlank_of_mem h hc] at visible
  cases visible

private theorem toList_token (p : Path) : (space.token p).toList =
    space.before.toList ++ '{' :: '{' :: ((space.inside p).toList ++ '}' :: '}' :: space.after.toList) := by
  simp [token, toList_enclose, String.toList_append]

private theorem toList_inside (p : Path) : (space.inside p).toList =
    space.opened.toList ++ (p.display.toList ++ space.closed.toList) := by
  rw [inside, String.toList_append, String.toList_append, List.append_assoc]

private theorem trimStartChars_inside (p : Path) :
    Text.trimStartChars (space.inside p).toList = p.display.toList ++ space.closed.toList := by
  have blank : ∀ c ∈ space.opened.toList, Text.isBlank c = true := fun c hc =>
    space.isBlank_of_mem (t := space.opened) (by simp) hc
  rw [Text.trimStartChars, toList_inside, List.dropWhile_append_of_pos blank, Path.toList_display]
  rfl

private theorem trim_inside (h : p.IsLegible) : Text.trim (space.inside p) = p.display := by
  have blank : ∀ c ∈ space.closed.toList.reverse, Text.isBlank c = true := fun c hc =>
    space.isBlank_of_mem (t := space.closed) (by simp) (List.mem_reverse.mp hc)
  have visible : ∀ c ∈ p.display.toList, Text.isBlank c = false := fun c hc => Path.isBlank_of_mem_display h hc
  have whole : Text.trimEndChars p.display.toList = p.display.toList := by
    have trimmed := Text.trimChars_of_no_blank visible
    rw [Text.trimChars, Text.trimStartChars, Path.toList_display] at trimmed
    rw [Path.toList_display]
    exact trimmed
  rw [Text.trim, Text.trimChars, trimStartChars_inside, Text.trimEndChars, List.reverse_append,
    List.dropWhile_append_of_pos blank]
  exact (congrArg String.ofList whole).trans String.ofList_toList

private theorem isSimple_inside (h : p.IsLegible) : IsSimple (space.inside p).toList where
  opens := by
    rw [toList_inside, List.mem_append, List.mem_append]
    rintro (outer | own | outer)
    · exact space.not_mem_of_visible (by simp) (by decide) outer
    · exact (Path.no_brace_of_mem_display h own).1 rfl
    · exact space.not_mem_of_visible (by simp) (by decide) outer
  closes := by
    rw [toList_inside, List.mem_append, List.mem_append]
    rintro (outer | own | outer)
    · exact space.not_mem_of_visible (by simp) (by decide) outer
    · exact (Path.no_brace_of_mem_display h own).2 rfl
    · exact space.not_mem_of_visible (by simp) (by decide) outer
  reference := by
    rw [isReference, trimStartChars_inside, Path.toList_display]
    rfl

private theorem scan_token (h : p.IsLegible) : scan (space.token p) =
    withLiteral space.before.toList.reverse
      (.token (space.inside p).toList :: withLiteral space.after.toList.reverse []) := by
  have start : '{' ∉ space.before.toList := space.not_mem_of_visible (by simp) (by decide)
  have finish : '{' ∉ space.after.toList := space.not_mem_of_visible (by simp) (by decide)
  rw [scan, toList_token, pieces_append (unopened_of_not_mem start)
    fun ends => absurd (List.mem_of_getLast? ends) start, pieces_token (space.isSimple_inside h),
    pieces_of_unopened (unopened_of_not_mem finish), List.append_nil, List.append_nil]

theorem hasTokens_token (h : p.IsLegible) : hasTokens (space.token p) = true := by
  rw [hasTokens, space.scan_token h, any_isToken_withLiteral]
  rfl

theorem onlyToken?_token (h : p.IsLegible) :
    onlyToken? (scan (space.token p)) = some (space.inside p).toList := by
  have lone {a b : List Char} (ha : a.all Text.isBlank = true) (hb : b.all Text.isBlank = true) :
      onlyToken? (withLiteral a (.token (space.inside p).toList :: withLiteral b [])) =
        some (space.inside p).toList := by
    cases a <;> cases b <;> simp_all [withLiteral, onlyToken?]
  rw [space.scan_token h]
  refine lone ?_ ?_ <;> rw [List.all_reverse]
  · exact space.blank space.before (by simp)
  · exact space.blank space.after (by simp)

theorem variableName?_token (h : p.IsLegible) : variableName? (space.token p) = none := by
  rw [Option.eq_none_iff_forall_ne_some]
  intro name named
  cases (space.hasTokens_token h).symm.trans (hasTokens_of_variableName? named)

theorem evaluateWith_inside {context : Context} (h : p.IsLegible) (hv : context.get? p = some v)
    (resolve : String → Resolution Json) : evaluateWith context resolve (space.inside p) = .silent v := by
  have inner : hasTokens (space.inside p) = false := any_isToken_pieces (space.isSimple_inside h).opens
  rw [evaluateWith, inner, if_neg Bool.false_ne_true, trim_inside space h, lookup, Context.query_of_get? h hv]

private theorem resolve_token {scope : Scope} (h : p.IsLegible) (hv : scope.context.get? p = some v)
    (plain : ∀ s ∈ v.texts, isLive s = false) : resolve scope (space.token p) = .silent v := by
  have depth : maxDepth = 9 + 1 := rfl
  rw [resolve, depth, resolveWithin_of_lone (space.variableName?_token h) (space.hasTokens_token h)
    (space.onlyToken?_token h), String.ofList_toList, space.evaluateWith_inside h hv, silent_andThen,
    expandWith_of_not_live plain]

end Spacing

/-- A token alone in its text, with any white space around it and around the place in its braces,
gives the very value that lies at the place, and nothing is logged, if no text in the value is
replaced in its turn. Wherever that text stands in a value, the value resolves as if what lies at
the place had been written there: afterwards it is found there, unless another text of the value is
refused and with it the whole. -/
theorem resolve_lone (scope : Scope) (p : Path) (v : Json) (space : Spacing) (h : p.IsLegible)
    (hv : scope.context.get? p = some v)
    (plain : ∀ s ∈ v.texts, hasTokens s = false ∧ variableName? s = none) :
    resolve scope (space.token p) = .silent v ∧
    ∀ (tree : Json) (place : List Segment), Json.get? place tree = some (.string (space.token p)) →
      resolveValue scope tree = resolveValue scope (Json.set v place tree) ∧
      ((∃ r, resolveValue scope tree = .ok r ∧ Json.get? place r.value = some v) ∨
        ∃ s ∈ tree.texts, s ≠ space.token p ∧
          ∃ refusal, resolve scope s = .error refusal ∧ resolveValue scope tree = .error refusal) := by
  have dead : ∀ s ∈ v.texts, isLive s = false := by
    intro s inside
    rw [isLive, (plain s inside).1, (plain s inside).2]
    rfl
  have alone := space.resolve_token h hv dead
  have leaf : expandWith (resolve scope) (.string (space.token p)) = .silent v := by
    rw [expandWith, isLive, space.hasTokens_token h]
    exact alone
  refine ⟨alone, fun tree place held => ⟨?_, ?_⟩⟩
  · exact (expandWith_set held ((expandWith_of_not_live dead).trans leaf.symm)).symm
  · cases result : resolveValue scope tree with
    | ok r =>
      obtain ⟨l, hl, found⟩ := get?_of_expandWith result held
      cases leaf.symm.trans hl
      exact .inl ⟨r, rfl, found⟩
    | error refusal =>
      -- The token itself has a value, so that it is another text that is refused.
      obtain ⟨s, inside, refused⟩ := exists_of_expandWith_error result
      refine .inr ⟨s, inside, ?_, refusal, refused, rfl⟩
      rintro rfl
      cases alone.symm.trans refused

def shelf : Scope :=
  ⟨Context.empty.putRoot "ctx" (.object [("rows", .array [.object [("b", .nat 2), ("a", .array [.null])]])]),
    fun _ => none⟩

def shelved : Path := ⟨"ctx", [.key "rows", .index 0]⟩

/-- A tabulator before the token, a line break after it, and blanks in the braces. -/
def roomy : Spacing := ⟨"\t", " ", "  ", "\n", by decide +kernel⟩

/-- The object comes with its members in their order, alone and as a part of another value. -/
theorem shelf_lone :
    roomy.token shelved = "\t{{ $.ctx.rows[0]  }}\n" ∧
    shelf.context.get? shelved = some (.object [("b", .nat 2), ("a", .array [.null])]) ∧
    resolve shelf (roomy.token shelved) = .silent (.object [("b", .nat 2), ("a", .array [.null])]) ∧
    ∃ r, resolveValue shelf (.array [.null, .object [("body", .string (roomy.token shelved))]]) = .ok r ∧
      Json.get? [.index 1, .key "body"] r.value = some (.object [("b", .nat 2), ("a", .array [.null])]) := by
  have legible : shelved.IsLegible := by decide +kernel
  have held : shelf.context.get? shelved = some (.object [("b", .nat 2), ("a", .array [.null])]) := rfl
  obtain ⟨alone, within⟩ := resolve_lone shelf shelved _ roomy legible held (by decide +kernel)
  refine ⟨by decide +kernel, held, alone, ?_⟩
  obtain ⟨-, found | ⟨s, inside, other, -⟩⟩ :=
    within (.array [.null, .object [("body", .string (roomy.token shelved))]]) [.index 1, .key "body"] rfl
  · exact found
  · exact absurd (List.mem_singleton.mp inside) other

/-- The token that a value has at a place is one that gives a number, but beside it stands a
selector that is refused, and the value has no resolution at all. -/
theorem lone_beside_refused :
    resolve rowScope "{{$.ctx.n}}" = .silent (.nat 1) ∧
    ¬ ∃ r, resolveValue rowScope
        (.array [.string "{{$.ctx.n}}", .string "{{$.ctx.list[::0]}}"]) = .ok r ∧
      Json.get? [.index 0] r.value = some (.nat 1) := by
  have refused : (resolveValue rowScope (.array [.string "{{$.ctx.n}}",
      .string "{{$.ctx.list[::0]}}"])).passes (fun _ => true) = false := by decide +kernel
  constructor
  · have legible : Path.IsLegible ⟨"ctx", [.key "n"]⟩ := by decide +kernel
    exact Spacing.resolve_token ⟨"", "", "", "", by decide⟩ legible rfl (by decide)
  · rintro ⟨r, resolved, -⟩
    rw [resolved] at refused
    cases refused

end Token

end Assay
