/- digest: Texts with tokens between them: a token is replaced by the text of its value, but for one
   behind a single brace that opens, which stays as it is written. -/

import Assay.Proofs.Query.Place
import Assay.Proofs.Text.Lowering
import Assay.Proofs.Token.Settled

set_option autoImplicit false
set_option relaxedAutoImplicit false

namespace Assay

theorem Path.no_brace_of_mem_display {p : Path} (h : p.IsLegible) {c : Char}
    (hc : c ∈ p.display.toList) :
    c ≠ '{' ∧ c ≠ '}' := by
  rcases Path.mem_display h hc with name | special
  · constructor <;> rintro rfl <;> exact absurd name (by decide +kernel)
  · have none : "$.[]".toList.all (fun d => d ≠ '{' ∧ d ≠ '}') = true := by decide
    simpa using List.all_eq_true.mp none c special

namespace Token

def enclose (e : String) : String := "\x7b\x7b" ++ e ++ "\x7d\x7d"

theorem toList_enclose (e : String) :
    (enclose e).toList = '{' :: '{' :: (e.toList ++ ['}', '}']) := by
  rw [enclose, String.toList_append, String.toList_append]
  rfl

/-- No double brace opens in the characters. -/
def Unopened (cs : List Char) : Prop := Text.occursIn ['{', '{'] cs = false

instance (cs : List Char) : Decidable (Unopened cs) := inferInstanceAs (Decidable (_ = _))

private theorem Unopened.tail {c : Char} {cs : List Char} (h : Unopened (c :: cs)) :
    Unopened cs := by
  rw [Unopened, Text.occursIn, Bool.or_eq_false_iff] at h
  exact h.2

private theorem Unopened.apart {c d : Char} {cs : List Char} (h : Unopened (c :: d :: cs)) :
    ¬ (c = '{' ∧ d = '{') := by
  rintro ⟨rfl, rfl⟩
  exact Bool.noConfusion h

private theorem unopened_cons_of_not_mem {c : Char} {cs : List Char}
    (h : '{' ∉ cs) : Unopened (c :: cs) := by
  induction cs generalizing c with
  | nil => rw [Unopened, Text.occursIn, Text.occursIn, List.isPrefixOf_cons_cons]; simp
  | cons d rest ih =>
    have other : ('{' == d) = false := beq_false_of_ne fun equal => h (equal ▸ List.mem_cons_self)
    have tail : Unopened (d :: rest) := ih fun inside => h (List.mem_cons_of_mem d inside)
    rw [Unopened] at tail ⊢
    rw [Text.occursIn, tail, List.isPrefixOf_cons_cons, List.isPrefixOf_cons_cons, other]
    simp

theorem unopened_of_not_mem {cs : List Char} (h : '{' ∉ cs) : Unopened cs :=
  (unopened_cons_of_not_mem (c := 'x') h).tail

private theorem Unopened.of_concat {front : List Char} (h : Unopened (front ++ ['{'])) :
    Unopened front ∧ front.getLast? ≠ some '{' := by
  simp only [Unopened, ← Bool.not_eq_true, Text.occursIn_iff_infix] at h ⊢
  constructor
  · exact fun inside => h (inside.trans (List.prefix_append front ['{']).isInfix)
  · intro ends
    obtain ⟨start, rfl⟩ := List.getLast?_eq_some_iff.mp ends
    exact h ⟨start, [], by simp⟩

/-- Characters without a double brace that opens become literal, unless the last of them opens one
with what follows. -/
theorem pieces_append {cs after : List Char} (unopened : Unopened cs)
    (ends : cs.getLast? = some '{' → after.head? ≠ some '{') (backwards : List Char) :
    pieces backwards (cs ++ after) = pieces (cs.reverse ++ backwards) after := by
  induction cs generalizing backwards with
  | nil => rfl
  | cons c rest ih =>
    rw [List.reverse_cons, List.append_assoc, List.singleton_append]
    cases rest with
    | nil =>
      cases after with
      | nil => rw [List.append_nil, pieces, List.reverse_nil, List.nil_append, pieces]
      | cons d after =>
        refine pieces_cons_cons ?_
        rintro ⟨rfl, rfl⟩
        exact ends rfl rfl
    | cons d rest =>
      rw [List.getLast?_cons_cons] at ends
      rw [List.cons_append, List.cons_append, pieces_cons_cons unopened.apart]
      exact ih unopened.tail ends (c :: backwards)

theorem pieces_of_unopened {cs : List Char} (unopened : Unopened cs) (backwards : List Char) :
    pieces backwards cs = withLiteral (cs.reverse ++ backwards) [] := by
  have whole : pieces backwards (cs ++ []) = pieces (cs.reverse ++ backwards) [] :=
    pieces_append unopened (fun _ => by simp) backwards
  rwa [List.append_nil, pieces.eq_1] at whole

private theorem pieces_of_closing? {rest inner after : List Char}
    (h : closing? 0 rest = some (inner, after))
    (backwards : List Char) : pieces backwards ('{' :: '{' :: rest) =
      if isReference inner then withLiteral backwards (.token inner :: pieces [] after)
      else pieces ('{' :: '{' :: backwards) rest := by
  rw [pieces, if_pos ⟨rfl, rfl⟩]
  split
  · rename_i opened
    rw [h] at opened
    cases opened
  · rename_i found
    rw [h] at found
    cases found
    rfl

private theorem closing?_of_unopened {e : List Char} (after : List Char) (unopened : Unopened e)
    (h : '}' ∉ e) :
    closing? 0 (e ++ '}' :: '}' :: after) = some (e, after) := by
  induction e with
  | nil => rfl
  | cons c e ih =>
    rw [List.cons_append, closing?, ih unopened.tail fun inside => h (List.mem_cons_of_mem c inside)]
    · rfl
    · rintro rest rfl following
      cases e with
      | nil => cases following
      | cons d e =>
        cases following
        exact unopened.apart ⟨rfl, rfl⟩
    · rintro rest rfl
      exact absurd List.mem_cons_self h

/-- The characters of an expression without braces that refers to the namespace. -/
structure IsSimple (e : List Char) : Prop where
  opens : '{' ∉ e
  closes : '}' ∉ e
  reference : isReference e = true

variable {e : List Char}

theorem pieces_token (h : IsSimple e) (backwards after : List Char) :
    pieces backwards ('{' :: '{' :: (e ++ '}' :: '}' :: after)) =
      withLiteral backwards (.token e :: pieces [] after) := by
  have closed : closing? 0 (e ++ '}' :: '}' :: after) = some (e, after) :=
    closing?_of_unopened after (unopened_of_not_mem h.opens) h.closes
  rw [pieces_of_closing? closed, if_pos h.reference]

private theorem pieces_missed (h : IsSimple e) (backwards after : List Char) :
    pieces backwards ('{' :: '{' :: '{' :: (e ++ '}' :: '}' :: after)) =
      pieces ('}' :: '}' :: (e.reverse ++ '{' :: '{' :: '{' :: backwards)) after := by
  have closed : closing? 0 ('{' :: (e ++ '}' :: '}' :: after)) = some ('{' :: e, after) :=
    closing?_of_unopened after (unopened_cons_of_not_mem h.opens) fun inside =>
      h.closes (List.mem_of_ne_of_mem (by decide) inside)
  have foreign : isReference ('{' :: e) = false := rfl
  have passed : Unopened ('{' :: (e ++ ['}', '}'])) :=
    unopened_cons_of_not_mem fun inside => (List.mem_append.mp inside).elim h.opens (by decide)
  have last : ('{' :: (e ++ ['}', '}'])).getLast? = some '}' := by
    simp [List.getLast?_cons, List.getLast?_append]
  have literal : pieces ('{' :: '{' :: backwards) (('{' :: (e ++ ['}', '}'])) ++ after) = _ :=
    pieces_append passed (by simp [last]) _
  rw [pieces_of_closing? closed, foreign, if_neg Bool.false_ne_true]
  simpa using literal

/-- A text, and a token behind it with the value that it refers to. -/
structure Slot where
  before : String
  expression : String
  value : Json

namespace Slot

def token (s : Slot) : String := enclose s.expression

/-- Whether the text ends in a brace that opens. The scan misses the token behind it. -/
def isMissed (s : Slot) : Bool := s.before.toList.getLast? == some '{'

def written (s : Slot) : String := s.before ++ s.token

def filled (s : Slot) : String := s.before ++ s.value.plainText

/-- What stands in the place of a slot after resolution. -/
def shown (s : Slot) : String := if s.isMissed then s.written else s.filled

/-- The text opens no token, and the expression, which holds none itself, finds one value. -/
structure Fits (context : Context) (s : Slot) : Prop where
  before : Unopened s.before.toList
  expression : IsSimple s.expression.toList
  found : context.query (Text.trim s.expression) = .ok [s.value]

end Slot

private theorem Slot.fits_of_place {context : Context} {p : Path} (h : p.IsLegible)
    {before : String} {v : Json}
    (unopened : Unopened before.toList) (found : context.query p.display = .ok [v]) :
    Fits context ⟨before, p.display, v⟩ where
  before := unopened
  expression :=
    { opens := fun inside => (Path.no_brace_of_mem_display h inside).1 rfl
      closes := fun inside => (Path.no_brace_of_mem_display h inside).2 rfl
      reference := by rw [Path.toList_display]; rfl }
  found := by
    have trimmed : Text.trim (p.display ++ "") = p.display ++ "" := Path.trim_display h (by simp)
    rw [String.append_empty] at trimmed
    rw [trimmed]
    exact found

/-- Slots one after the other, each in one form, and a last text. -/
def along (form : Slot → String) : List Slot → String → String
  | [], last => last
  | s :: rest, last => form s ++ along form rest last

/-- The pieces of slots and a last text behind literal characters, which run backwards. -/
private def outline (backwards : List Char) : List Slot → String → List Piece
  | [], last => withLiteral (last.toList.reverse ++ backwards) []
  | s :: rest, last =>
    if s.isMissed then outline (s.written.toList.reverse ++ backwards) rest last
    else withLiteral (s.before.toList.reverse ++ backwards)
      (.token s.expression.toList :: outline [] rest last)

variable {context : Context} {slots : List Slot} {last : String}

private theorem Slot.toList_written (s : Slot) : s.written.toList =
    s.before.toList ++ '{' :: '{' :: (s.expression.toList ++ ['}', '}']) := by
  rw [written, token, String.toList_append, toList_enclose]

private theorem Slot.Fits.pieces_written {s : Slot} (h : s.Fits context)
    (backwards after : List Char) :
    pieces backwards (s.written.toList ++ after) =
      if s.isMissed then pieces (s.written.toList.reverse ++ backwards) after
      else withLiteral (s.before.toList.reverse ++ backwards) (.token s.expression.toList :: pieces [] after) := by
  have unopened : Unopened s.before.toList := h.before
  rw [toList_written, List.append_assoc, List.cons_append, List.cons_append, List.append_assoc]
  split
  · rename_i missed
    obtain ⟨front, whole⟩ := List.getLast?_eq_some_iff.mp (eq_of_beq missed)
    rw [whole] at unopened ⊢
    obtain ⟨unopened, single⟩ := unopened.of_concat
    rw [List.append_assoc, pieces_append unopened fun ends => absurd ends single]
    refine (pieces_missed h.expression _ after).trans (congrArg (pieces · after) ?_)
    simp
  · rename_i read
    rw [pieces_append unopened fun ends => absurd (beq_iff_eq.mpr ends) read]
    exact pieces_token h.expression _ after

private theorem pieces_along (fits : ∀ s ∈ slots, s.Fits context) (unopened : Unopened last.toList)
    (backwards : List Char) :
    pieces backwards (along Slot.written slots last).toList = outline backwards slots last := by
  induction slots generalizing backwards with
  | nil => exact pieces_of_unopened unopened backwards
  | cons s rest ih =>
    have tail := ih fun other inside => fits other (List.mem_cons_of_mem s inside)
    rw [along, String.toList_append, (fits s List.mem_cons_self).pieces_written, outline, tail, tail]

private theorem splice_withLiteral (evaluate : String → Resolution Json) (backwards : List Char)
    {parts : List Piece} {text : String} (h : splice evaluate parts = .silent text) :
    splice evaluate (withLiteral backwards parts) = .silent (String.ofList backwards.reverse ++ text) := by
  cases backwards with
  | nil =>
    rw [List.reverse_nil, String.ofList_nil, String.empty_append]
    exact h
  | cons c rest =>
    change splice evaluate (.literal (c :: rest).reverse :: parts) = _
    rw [splice, h]
    rfl

private theorem splice_outline {evaluate : String → Resolution Json}
    (values : ∀ s ∈ slots, evaluate s.expression = .silent s.value) (backwards : List Char) :
    splice evaluate (outline backwards slots last) =
      .silent (String.ofList backwards.reverse ++ along Slot.shown slots last) := by
  induction slots generalizing backwards with
  | nil =>
    rw [outline, splice_withLiteral evaluate _ (splice.eq_1 evaluate), List.reverse_append,
      List.reverse_reverse, String.ofList_append, String.ofList_toList]
    simp [along]
  | cons s rest ih =>
    have tail := ih fun other inside => values other (List.mem_cons_of_mem s inside)
    rw [outline, along, Slot.shown]
    split
    · rw [tail, List.reverse_append, List.reverse_reverse, String.ofList_append, String.ofList_toList,
        String.append_assoc]
    · have token : splice evaluate (.token s.expression.toList :: outline [] rest last) =
          .silent (s.value.plainText ++ along Slot.shown rest last) := by
        rw [splice, String.ofList_toList, values s List.mem_cons_self, tail]
        simp [Resolution.andThen, Resolution.silent, Resolution.onValue, Except.map]
      rw [splice_withLiteral evaluate _ token, List.reverse_append, List.reverse_reverse,
        String.ofList_append, String.ofList_toList, Slot.filled, String.append_assoc, String.append_assoc]

private theorem countP_outline (backwards : List Char) :
    (outline backwards slots last).countP Piece.isToken = slots.countP fun s => !s.isMissed := by
  have literal (backwards : List Char) (parts : List Piece) :
      (withLiteral backwards parts).countP Piece.isToken = parts.countP Piece.isToken := by
    cases backwards with
    | nil => rfl
    | cons c rest => simp [withLiteral, Piece.isToken]
  induction slots generalizing backwards with
  | nil => rw [outline, literal]; rfl
  | cons s rest ih =>
    rw [outline]
    split
    · rename_i missed
      rw [ih, List.countP_cons_of_neg (by simp [missed])]
    · rename_i read
      rw [literal, List.countP_cons_of_pos rfl, List.countP_cons_of_pos (by simpa using read), ih]

private def Piece.literalChars : Piece → List Char
  | .literal cs => cs
  | .token _ => []

private theorem of_onlyToken? {parts : List Piece} {e : List Char} (h : onlyToken? parts = some e) :
    parts.countP Piece.isToken = 1 ∧ ∀ c ∈ parts.flatMap Piece.literalChars, Text.isBlank c = true := by
  unfold onlyToken? at h
  split at h
  · exact ⟨rfl, by simp [Piece.literalChars]⟩
  · split at h
    · rename_i blank
      exact ⟨rfl, by simpa [Piece.literalChars] using blank⟩
    · cases h
  · split at h
    · rename_i blank
      exact ⟨rfl, by simpa [Piece.literalChars] using blank⟩
    · cases h
  · split at h
    · rename_i blank
      exact ⟨rfl, by simpa [Piece.literalChars, or_imp, forall_and] using blank⟩
    · cases h
  · cases h

private theorem mem_outline {backwards : List Char} {c : Char}
    (h : (∃ s ∈ slots, c ∈ s.before.toList) ∨ c ∈ last.toList ∨ c ∈ backwards) :
    c ∈ (outline backwards slots last).flatMap Piece.literalChars := by
  have literal {backwards : List Char} {parts : List Piece}
      (inside : c ∈ backwards ∨ c ∈ parts.flatMap Piece.literalChars) :
      c ∈ (withLiteral backwards parts).flatMap Piece.literalChars := by
    cases backwards with
    | nil => simpa [withLiteral] using inside
    | cons d rest => simpa [withLiteral, Piece.literalChars, or_assoc, or_left_comm] using inside
  induction slots generalizing backwards with
  | nil =>
    rw [outline]
    refine literal (.inl ?_)
    simpa using h
  | cons s rest ih =>
    rw [outline]
    rcases h with ⟨other, inside, hc⟩ | later
    · rcases List.mem_cons.mp inside with rfl | inside
      · split
        · refine ih (.inr (.inr (List.mem_append_left _ ?_)))
          rw [List.mem_reverse, Slot.toList_written]
          exact List.mem_append_left _ hc
        · exact literal (.inl (List.mem_append_left _ (List.mem_reverse.mpr hc)))
      · split
        · exact ih (.inl ⟨other, inside, hc⟩)
        · exact literal (.inr (ih (.inl ⟨other, inside, hc⟩)))
    · split
      · exact ih (.inr (later.imp_right (List.mem_append_right _)))
      · rcases later with ends | starts
        · exact literal (.inr (ih (.inr (.inl ends))))
        · exact literal (.inl (List.mem_append_right _ starts))

/-- Several tokens, or a text that is more than blanks: no slot stands alone. -/
def Mixed (slots : List Slot) (last : String) : Prop :=
  2 ≤ slots.length ∨ ∃ text ∈ last :: slots.map Slot.before, text.toList.all Text.isBlank = false

private theorem onlyToken?_outline (mixed : Mixed slots last) :
    onlyToken? (outline [] slots last) = none := by
  rw [Option.eq_none_iff_forall_ne_some]
  intro e only
  obtain ⟨single, blank⟩ := of_onlyToken? only
  rw [countP_outline] at single
  rcases mixed with several | ⟨text, inside, dark⟩
  · -- A slot that is missed leaves a brace, which is no blank.
    have read : ∀ s ∈ slots, (!s.isMissed) = true := by
      intro s hs
      rw [Bool.not_eq_true', Bool.eq_false_iff]
      intro missed
      have brace := List.mem_of_getLast? (eq_of_beq missed)
      exact absurd (blank '{' (mem_outline (.inl ⟨s, hs, brace⟩))) (by decide)
    rw [List.countP_eq_length.mpr read] at single
    omega
  · obtain ⟨c, hc, visible⟩ := List.all_eq_false.mp dark
    refine visible (blank c (mem_outline ?_))
    rcases List.mem_cons.mp inside with rfl | inside
    · exact .inr (.inl hc)
    · obtain ⟨s, hs, rfl⟩ := List.mem_map.mp inside
      exact .inl ⟨s, hs, hc⟩

private theorem along_congr {form other : Slot → String} (h : ∀ s ∈ slots, form s = other s) :
    along form slots last = along other slots last := by
  induction slots with
  | nil => rfl
  | cons s rest ih =>
    rw [along, along, h s List.mem_cons_self, ih fun s' inside => h s' (List.mem_cons_of_mem s inside)]

private theorem along_shown_of_missed (h : ∀ s ∈ slots, s.isMissed = true) :
    along Slot.shown slots last = along Slot.written slots last :=
  along_congr fun s hs => if_pos (h s hs)

private theorem along_shown_of_read (h : ∀ s ∈ slots, s.isMissed = false) :
    along Slot.shown slots last = along Slot.filled slots last :=
  along_congr fun s hs => if_neg (by simp [h s hs])

private theorem variableName?_along (present : slots ≠ []) :
    variableName? (along Slot.written slots last) = none := by
  rw [Option.eq_none_iff_forall_ne_some]
  intro name found
  obtain ⟨c, cs, chars, none⟩ := exists_of_variableName? found
  obtain ⟨s, rest, rfl⟩ := List.exists_cons_of_ne_nil present
  have single : ('$' :: '{' :: c :: cs).count '{' = 1 := by
    rw [List.count_cons_of_ne (by decide), List.count_cons_self, List.count_eq_zero_of_not_mem none]
  have braces : 2 ≤ (along Slot.written (s :: rest) last).toList.count '{' := by
    rw [along, String.toList_append, Slot.toList_written, List.count_append, List.count_append,
      List.count_cons_self, List.count_cons_self]
    omega
  rw [chars, single] at braces
  omega

private theorem evaluateWith_of_fits {s : Slot} (h : s.Fits context)
    (resolve : String → Resolution Json) :
    evaluateWith context resolve s.expression = .silent s.value := by
  have inner : hasTokens s.expression = false := any_isToken_pieces h.expression.opens
  rw [evaluateWith, inner, if_neg Bool.false_ne_true, lookup, h.found]

/-- Texts with tokens between them are resolved to the texts with the values between them, and
nothing is logged. A token behind a brace that opens stays as it is written. -/
theorem resolve_along (scope : Scope) (slots : List Slot) (last : String) (present : slots ≠ [])
    (fits : ∀ s ∈ slots, s.Fits scope.context) (unopened : Unopened last.toList)
    (mixed : Mixed slots last) :
    (hasTokens (along Slot.shown slots last) = false →
      resolve scope (along Slot.written slots last) = .silent (.string (along Slot.shown slots last))) ∧
    ((∀ s ∈ slots, s.isMissed = false) → hasTokens (along Slot.filled slots last) = false →
      resolve scope (along Slot.written slots last) = .silent (.string (along Slot.filled slots last))) := by
  have general : hasTokens (along Slot.shown slots last) = false →
      resolve scope (along Slot.written slots last) = .silent (.string (along Slot.shown slots last)) := by
    intro settled
    have unnamed : variableName? (along Slot.written slots last) = none := variableName?_along present
    have scanned : scan (along Slot.written slots last) = outline [] slots last :=
      pieces_along fits unopened []
    have depth : maxDepth = 9 + 1 := rfl
    by_cases tokens : hasTokens (along Slot.written slots last) = true
    · have spliced : splice (evaluateWith scope.context (resolveWithin scope 9)) (outline [] slots last) = _ :=
        splice_outline (fun s hs => evaluateWith_of_fits (fits s hs) _) []
      rw [List.reverse_nil, String.ofList_nil, String.empty_append] at spliced
      rw [resolve, depth, resolveWithin_of_mixed unnamed tokens (scanned ▸ onlyToken?_outline mixed), scanned,
        spliced]
      simp [Resolution.andThen, Resolution.silent, settled]
    · rw [Bool.not_eq_true] at tokens
      have missed : ∀ s ∈ slots, s.isMissed = true := by
        have nowhere : (outline [] slots last).countP Piece.isToken = 0 := by
          rw [List.countP_eq_zero, ← scanned]
          simpa [hasTokens] using tokens
        rw [countP_outline, List.countP_eq_zero] at nowhere
        simpa using nowhere
      rw [resolve, resolveWithin_of_plain unnamed tokens, along_shown_of_missed missed]
  refine ⟨general, fun read settled => ?_⟩
  rw [← along_shown_of_read read] at settled ⊢
  exact general settled

def rowScope : Scope :=
  ⟨Context.empty.putRoot "ctx" (.object [("n", .nat 1), ("list", .array [.null, .string "two"])]), fun _ => none⟩

def row : List Slot :=
  [⟨"[", "$.ctx.n", .nat 1⟩, ⟨", \"", "$.ctx.list[1]", .string "two"⟩]

theorem row_spliced :
    row ≠ [] ∧ (∀ s ∈ row, s.Fits rowScope.context) ∧ Unopened "\"]".toList ∧
    Mixed row "\"]" ∧ (∀ s ∈ row, s.isMissed = false) ∧ hasTokens (along Slot.filled row "\"]") = false ∧
    resolve rowScope (along Slot.written row "\"]") =
      .silent (.string "[1, \"two\"]") := by
  have number : Path.IsLegible ⟨"ctx", [.key "n"]⟩ := by decide +kernel
  have item : Path.IsLegible ⟨"ctx", [.key "list", .index 1]⟩ := by decide +kernel
  have fits : ∀ s ∈ row, s.Fits rowScope.context := by
    intro s hs
    simp only [row, List.mem_cons, List.not_mem_nil, or_false] at hs
    rcases hs with rfl | rfl
    · exact Slot.fits_of_place number (by decide +kernel) (Context.query_of_get? number rfl)
    · exact Slot.fits_of_place item (by decide +kernel) (Context.query_of_get? item rfl)
  have unopened : Unopened "\"]".toList := by decide +kernel
  have mixed : Mixed row "\"]" := .inl (by decide)
  have read : ∀ s ∈ row, s.isMissed = false := by decide +kernel
  have settled : hasTokens (along Slot.filled row "\"]") = false := by decide +kernel
  have spliced := (resolve_along rowScope row _ (by decide) fits unopened mixed).2 read settled
  have filled : along Slot.filled row "\"]" = "[1, \"two\"]" := by decide +kernel
  exact ⟨by decide, fits, unopened, mixed, read, settled, filled ▸ spliced⟩

/-- A token right behind a brace that opens stays, although it has a value and that has no token in
it. -/
theorem braced_token_stays :
    rowScope.context.query "$.ctx.n" = .ok [.nat 1] ∧ hasTokens "{1}" = false ∧
    resolve rowScope "{{{$.ctx.n}}}" = .silent (.string "{{{$.ctx.n}}}") ∧
    resolve rowScope "{{{$.ctx.n}}}" ≠ .silent (.string "{1}") := by
  have number : Path.IsLegible ⟨"ctx", [.key "n"]⟩ := by decide +kernel
  have kept : resolve rowScope "{{{$.ctx.n}}}" =
      .silent (.string "{{{$.ctx.n}}}") :=
    resolveWithin_of_plain (by decide +kernel) (by decide +kernel)
  have shown : Path.display ⟨"ctx", [.key "n"]⟩ = "$.ctx.n" := by decide +kernel
  have found : rowScope.context.query (Path.display ⟨"ctx", [.key "n"]⟩) = .ok [.nat 1] :=
    Context.query_of_get? number rfl
  rw [shown] at found
  refine ⟨found, by decide +kernel, kept, ?_⟩
  rw [kept]
  intro equal
  injection equal with same
  simp at same

end Token

end Assay
