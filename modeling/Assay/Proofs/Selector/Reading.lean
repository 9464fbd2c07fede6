/- digest: Reading routes from words: what is left is never longer than what there was, and beyond a
   few levels for each word more of them make no difference. -/

import Assay.Selector.Route

set_option autoImplicit false
set_option relaxedAutoImplicit false

namespace Assay.Selector.Move

theorem bind_eq_ok {ε α β : Type} {x : Except ε α} {f : α → Except ε β} {b : β} :
    x >>= f = .ok b ↔ ∃ a, x = .ok a ∧ f a = .ok b := by
  cases x with
  | error e => simp [bind, Except.bind]
  | ok a => simp [bind, Except.bind]

private theorem bind_congr_ok {ε α β : Type} {x y : Except ε α} {f g : α → Except ε β} (h : x = y)
    (hfg : ∀ a, y = .ok a → f a = g a) : x >>= f = y >>= g := by
  subst h
  cases x with
  | error e => rfl
  | ok a => exact hfg a rfl

private theorem ok_bind {ε α β : Type} (a : α) (f : α → Except ε β) :
    (.ok a : Except ε α) >>= f = f a := rfl

private theorem needed_some {α : Type} (a : α) (words : List Lexeme) :
    needed (some a) words = .ok a := rfl

/-- What a reading leaves is not longer than some words. -/
private def Leaves {α : Type} (words : List Lexeme) (r : Except Nat (α × List Lexeme)) : Prop :=
  ∀ a rest, r = .ok (a, rest) → rest.length ≤ words.length

section Leaves

variable {α β : Type} {words more : List Lexeme}

private theorem leaves_ok {a : α} {rest : List Lexeme} (h : rest.length ≤ words.length) :
    Leaves words (.ok (a, rest)) := by
  intro b left equal
  cases equal
  exact h

private theorem leaves_error (n : Nat) :
    Leaves words (.error n : Except Nat (α × List Lexeme)) := by
  intro a rest equal
  cases equal

private theorem Leaves.of_le {r : Except Nat (α × List Lexeme)} (h : Leaves words r)
    (hle : words.length ≤ more.length) : Leaves more r :=
  fun a rest equal => Nat.le_trans (h a rest equal) hle

private theorem Leaves.bind {r : Except Nat (α × List Lexeme)}
    {f : α × List Lexeme → Except Nat (β × _)}
    (h : Leaves words r) (hf : ∀ a rest, rest.length ≤ words.length → Leaves words (f (a, rest))) :
    Leaves words (r >>= f) := by
  intro b left equal
  obtain ⟨⟨a, rest⟩, hr, hb⟩ := bind_eq_ok.mp equal
  exact hf a rest (h a rest hr) b left hb

private theorem leaves_needed_bind {n : Option α} {place : List Lexeme} {f : α → Except Nat (β × _)}
    (hf : ∀ a, Leaves words (f a)) : Leaves words (needed n place >>= f) := by
  cases n with
  | none => exact leaves_error _
  | some a => exact hf a

end Leaves

private theorem length_skipGaps_le (words : List Lexeme) :
    (skipGaps words).length ≤ words.length := by
  fun_induction skipGaps words with
  | case1 rest ih => exact Nat.le_trans ih (Nat.le_succ _)
  | case2 words _ => exact Nat.le_refl _

private theorem length_of_skipGaps {words rest : List Lexeme} {w : Lexeme}
    (h : skipGaps words = w :: rest) :
    rest.length + 1 ≤ words.length := by
  have shorter := length_skipGaps_le words
  rw [h] at shorter
  exact shorter

section Readers

variable {words : List Lexeme}

private theorem leaves_readKeys (fuel : Nat) (done : List String) (words : List Lexeme) :
    Leaves words (readKeys fuel done words) := by
  induction fuel generalizing done words with
  | zero => exact leaves_error _
  | succ fuel ih =>
    unfold readKeys
    split
    · rename_i rest
      split
      · rename_i k after hk
        have shorter := length_of_skipGaps hk
        have left := length_skipGaps_le after
        exact (ih _ _).of_le (by simp only [List.length_cons]; omega)
      · exact leaves_error _
    · exact leaves_ok (Nat.le_refl _)

private theorem leaves_readQuotedKeys (name : String) (words : List Lexeme) :
    Leaves words (readQuotedKeys name words) := by
  unfold readQuotedKeys
  split
  · exact leaves_readKeys _ _ _
  · exact leaves_ok (Nat.le_refl _)

private theorem leaves_readUnion (fuel : Nat) (done : List Int) (words : List Lexeme) :
    Leaves words (readUnion fuel done words) := by
  induction fuel generalizing done words with
  | zero => exact leaves_error _
  | succ fuel ih =>
    unfold readUnion
    split
    · rename_i rest
      split
      · rename_i t after ht
        have shorter := length_of_skipGaps ht
        exact leaves_needed_bind fun i => (ih _ _).of_le (by simp only [List.length_cons]; omega)
      · exact leaves_error _
    · exact leaves_ok (Nat.le_refl _)

private theorem leaves_readStep (words : List Lexeme) : Leaves words (readStep words) := by
  unfold readStep
  split
  · rename_i rest hcolon
    have shorter := length_of_skipGaps hcolon
    split
    · rename_i t after ht
      have shorter' := length_of_skipGaps ht
      exact leaves_needed_bind fun n => leaves_ok (by omega)
    · rename_i rest' _
      have left := length_skipGaps_le rest
      exact leaves_ok (by omega)
  · exact leaves_ok (length_skipGaps_le words)

private theorem leaves_readRangeTail (start : Option Int) (words : List Lexeme) :
    Leaves words (readRangeTail start words) := by
  unfold readRangeTail
  split
  · rename_i t rest
    refine leaves_needed_bind fun stop => ?_
    refine ((leaves_readStep rest).of_le (by simp)).bind fun step rest' h => ?_
    exact leaves_ok h
  · exact leaves_error _

private theorem leaves_readRangeFrom (start : Int) (words : List Lexeme) :
    Leaves words (readRangeFrom start words) := by
  have left := length_skipGaps_le words
  unfold readRangeFrom
  split
  · rename_i t rest ht
    rw [← ht]
    exact (leaves_readRangeTail _ _).of_le left
  · rename_i rest hcolon
    rw [hcolon] at left
    refine ((leaves_readStep (.colon :: rest)).of_le left).bind fun step rest' h => ?_
    exact leaves_ok h
  · exact leaves_ok left

private theorem leaves_readRangeTo (words : List Lexeme) : Leaves words (readRangeTo words) := by
  refine (leaves_readStep words).bind fun step rest h => ?_
  dsimp only
  split
  · exact leaves_ok h
  · split
    · exact leaves_ok h
    · exact (leaves_readRangeTail _ _).of_le h

private theorem leaves_readPosition (text : String) (words : List Lexeme) :
    Leaves words (readPosition text words) := by
  have left := length_skipGaps_le words
  refine leaves_needed_bind fun i => ?_
  split
  · rename_i rest hcomma
    rw [hcomma] at left
    exact (leaves_readUnion _ _ _).of_le left
  · rename_i rest hcolon
    rw [hcolon] at left
    exact (leaves_readRangeFrom i rest).of_le (Nat.le_of_succ_le left)
  · exact leaves_needed_bind fun d => leaves_ok left

private theorem leaves_readIndexer (words : List Lexeme) : Leaves words (readIndexer words) := by
  unfold readIndexer
  split
  · exact (leaves_readPosition _ _).of_le (by simp)
  · exact (leaves_readRangeTo _).of_le (by simp)
  · exact (leaves_readQuotedKeys _ _).of_le (by simp)
  · exact leaves_error _

private theorem leaves_readAmount (text : String) (words : List Lexeme) :
    Leaves words (readAmount text words) := by
  unfold readAmount
  split
  · split
    · exact leaves_needed_bind fun m => leaves_ok (by simp only [List.length_cons]; omega)
    · exact leaves_error _
  · exact leaves_needed_bind fun m => leaves_ok (Nat.le_refl _)

private theorem leaves_readTruth (text : String) (words : List Lexeme) :
    Leaves words (readTruth text words) := by
  unfold readTruth
  split
  · split
    · exact leaves_ok (Nat.le_refl _)
    · exact leaves_error _
  · exact leaves_error _

private theorem length_of_readClosing {word : Lexeme} {rest : List Lexeme}
    (h : readClosing word words = .ok rest) : rest.length + 1 ≤ words.length := by
  unfold readClosing at h
  split at h
  · rename_i w after hw
    split at h
    · cases h
      exact length_of_skipGaps hw
    · cases h
  · cases h

private theorem leaves_readClosing_bind {α : Type} {word : Lexeme} {place : List Lexeme}
    {f : List Lexeme → Except Nat (α × List Lexeme)} (hplace : place.length ≤ words.length)
    (hf : ∀ rest, rest.length ≤ words.length → Leaves words (f rest)) :
    Leaves words (readClosing word place >>= f) := by
  intro a left equal
  obtain ⟨rest, hrest, ha⟩ := bind_eq_ok.mp equal
  have shorter := length_of_readClosing hrest
  exact hf rest (by omega) a left ha

end Readers

/-- With so many levels, no reader leaves more words than there were. -/
structure AllLeave (fuel : Nat) : Prop where
  steps : ∀ words, Leaves words (readSteps fuel words)
  stepAfterPoint : ∀ words, Leaves words (readStepAfterPoint fuel words)
  pointed : ∀ words, Leaves words (readPointed fuel words)
  filterInParens : ∀ words, Leaves words (readFilterInParens fuel words)
  bracket : ∀ words, Leaves words (readBracket fuel words)
  filter : ∀ words, Leaves words (readFilter fuel words)
  condition : ∀ words, Leaves words (readCondition fuel words)
  term : ∀ words, Leaves words (readTerm fuel words)

namespace AllLeave

variable {fuel : Nat}

private theorem zero : AllLeave 0 := by
  constructor <;> intro words <;> exact leaves_error _

private theorem succ_steps (h : AllLeave fuel) (words : List Lexeme) :
    Leaves words (readSteps (fuel + 1) words) := by
  unfold readSteps
  split
  · exact (h.pointed _).of_le (by simp)
  · rename_i rest
    have left := length_skipGaps_le rest
    have shorter : (skipGaps rest).length ≤ (Lexeme.openBracket :: rest).length :=
      Nat.le_succ_of_le left
    refine ((h.bracket (skipGaps rest)).of_le shorter).bind fun moves after hafter => ?_
    refine ((h.steps after).of_le hafter).bind fun more last hlast => ?_
    exact leaves_ok hlast
  · exact leaves_ok (Nat.le_refl _)

private theorem succ_stepAfterPoint (h : AllLeave fuel) (words : List Lexeme) :
    Leaves words (readStepAfterPoint (fuel + 1) words) := by
  unfold readStepAfterPoint
  split
  · split
    · exact leaves_ok (by simp only [List.length_cons]; omega)
    · exact leaves_ok (by simp only [List.length_cons]; omega)
    · exact leaves_ok (by simp only [List.length_cons]; omega)
    · exact leaves_error _
  · exact leaves_ok (by simp)
  · exact leaves_ok (by simp)
  · exact (h.bracket _).of_le (by simp)
  · exact leaves_error _

private theorem succ_pointed (h : AllLeave fuel) (words : List Lexeme) :
    Leaves words (readPointed (fuel + 1) words) := by
  refine (h.stepAfterPoint words).bind fun moves rest hrest => ?_
  refine ((h.steps rest).of_le hrest).bind fun more last hlast => ?_
  exact leaves_ok hlast

private theorem succ_filterInParens (h : AllLeave fuel) (words : List Lexeme) :
    Leaves words (readFilterInParens (fuel + 1) words) := by
  unfold readFilterInParens
  split
  · rename_i rest
    refine ((h.filter rest).of_le (by simp)).bind fun moves after hafter => ?_
    exact leaves_readClosing_bind hafter fun last hlast => leaves_ok hlast
  · exact leaves_error _

private theorem succ_bracket (h : AllLeave fuel) (words : List Lexeme) :
    Leaves words (readBracket (fuel + 1) words) := by
  have close (moves : List Move) (after : List Lexeme) (hafter : after.length ≤ words.length) :
      Leaves words (do
        let rest ← readClosing .closeBracket after
        .ok (.bracket :: moves ++ [.close], rest)) :=
    leaves_readClosing_bind hafter fun last hlast => leaves_ok hlast
  unfold readBracket
  split
  · exact ((h.filterInParens _).of_le (by simp)).bind close
  · rename_i rest
    exact close [.all] rest (by simp)
  · exact (leaves_readIndexer _).bind close

private theorem connect (h : AllLeave fuel) {words : List Lexeme} (moves : List Move)
    (after : List Lexeme)
    (hafter : after.length ≤ words.length) :
    Leaves words (match skipGaps after with
      | .and :: rest => do
        let (more, rest) ← readFilter fuel rest
        .ok (moves ++ more ++ [.relate .and], rest)
      | .or :: rest => do
        let (more, rest) ← readFilter fuel rest
        .ok (moves ++ more ++ [.relate .or], rest)
      | rest => .ok (moves, rest)) := by
  have left := length_skipGaps_le after
  split
  · rename_i rest hand
    have shorter := length_of_skipGaps hand
    refine ((h.filter rest).of_le (by omega)).bind fun more last hlast => ?_
    exact leaves_ok hlast
  · rename_i rest hor
    have shorter := length_of_skipGaps hor
    refine ((h.filter rest).of_le (by omega)).bind fun more last hlast => ?_
    exact leaves_ok hlast
  · exact leaves_ok (Nat.le_trans left hafter)

private theorem succ_filter (h : AllLeave fuel) (words : List Lexeme) :
    Leaves words (readFilter (fuel + 1) words) := by
  have left := length_skipGaps_le words
  unfold readFilter
  split
  · rename_i rest hopen
    rw [hopen] at left
    exact ((h.filterInParens _).of_le left).bind h.connect
  · exact ((h.condition _).of_le left).bind h.connect

private theorem succ_condition (h : AllLeave fuel) (words : List Lexeme) :
    Leaves words (readCondition (fuel + 1) words) := by
  refine (h.term words).bind fun moves rest hrest => ?_
  have left := Nat.le_trans (length_skipGaps_le rest) hrest
  dsimp only
  split
  · have tail : (skipGaps rest).tail.length ≤ (skipGaps rest).length := by simp
    have gaps := length_skipGaps_le (skipGaps rest).tail
    refine ((h.term _).of_le (Nat.le_trans gaps (Nat.le_trans tail left))).bind
      fun right last hlast => ?_
    exact leaves_ok hlast
  · split
    · exact leaves_ok left
    · exact leaves_error _

private theorem succ_term (h : AllLeave fuel) (words : List Lexeme) :
    Leaves words (readTerm (fuel + 1) words) := by
  unfold readTerm
  split
  · rename_i rest
    split
    · rename_i after
      have left := length_skipGaps_le (.gap :: after)
      exact leaves_ok (Nat.le_succ_of_le left)
    · refine ((h.steps rest).of_le (by simp)).bind fun moves after hafter => ?_
      exact leaves_ok hafter
  · rename_i rest
    refine ((h.steps rest).of_le (by simp)).bind fun moves after hafter => ?_
    exact leaves_ok hafter
  · exact (leaves_readQuotedKeys _ _).of_le (by simp)
  · split
    · split
      · exact (leaves_readAmount _ _).of_le (by simp)
      · exact (leaves_readTruth _ _).of_le (by simp)
    · exact leaves_error _
  · exact leaves_error _

end AllLeave

private theorem allLeave (fuel : Nat) : AllLeave fuel := by
  induction fuel with
  | zero => exact .zero
  | succ fuel ih =>
    exact ⟨ih.succ_steps, ih.succ_stepAfterPoint, ih.succ_pointed, ih.succ_filterInParens,
      ih.succ_bracket, ih.succ_filter, ih.succ_condition, ih.succ_term⟩

/-- With so many levels, one level more makes no difference to readers of not too many words.
Between two words that are taken, at most six readers call one another. -/
structure AllSated (fuel : Nat) : Prop where
  steps : ∀ words, 6 * words.length < fuel → readSteps fuel words = readSteps (fuel + 1) words
  stepAfterPoint : ∀ words, 6 * words.length < fuel →
    readStepAfterPoint fuel words = readStepAfterPoint (fuel + 1) words
  pointed : ∀ words, 6 * words.length + 1 < fuel →
    readPointed fuel words = readPointed (fuel + 1) words
  filterInParens : ∀ words, 6 * words.length + 1 < fuel →
    readFilterInParens fuel words = readFilterInParens (fuel + 1) words
  bracket : ∀ words, 6 * words.length < fuel →
    readBracket fuel words = readBracket (fuel + 1) words
  filter : ∀ words, 6 * words.length + 2 < fuel →
    readFilter fuel words = readFilter (fuel + 1) words
  condition : ∀ words, 6 * words.length + 1 < fuel →
    readCondition fuel words = readCondition (fuel + 1) words
  term : ∀ words, 6 * words.length < fuel → readTerm fuel words = readTerm (fuel + 1) words

namespace AllSated

variable {fuel : Nat} {words : List Lexeme}

private theorem zero : AllSated 0 := by
  constructor <;> intro words hw <;> omega

private theorem succ_steps (h : AllSated fuel) (hw : 6 * words.length < fuel + 1) :
    readSteps (fuel + 1) words = readSteps (fuel + 1 + 1) words := by
  unfold readSteps
  split
  · rename_i rest
    rw [List.length_cons] at hw
    exact h.pointed rest (by omega)
  · rename_i rest
    rw [List.length_cons] at hw
    have left := length_skipGaps_le rest
    refine bind_congr_ok (h.bracket _ (by omega)) ?_
    rintro ⟨moves, after⟩ hafter
    have shorter := (allLeave (fuel + 1)).bracket _ moves after hafter
    exact bind_congr_ok (h.steps after (by omega)) fun _ _ => rfl
  · rfl

private theorem succ_stepAfterPoint (h : AllSated fuel) (hw : 6 * words.length < fuel + 1) :
    readStepAfterPoint (fuel + 1) words = readStepAfterPoint (fuel + 1 + 1) words := by
  unfold readStepAfterPoint
  split
  · rfl
  · rfl
  · rfl
  · rename_i rest
    rw [List.length_cons] at hw
    exact h.bracket rest (by omega)
  · rfl

private theorem succ_pointed (h : AllSated fuel) (hw : 6 * words.length + 1 < fuel + 1) :
    readPointed (fuel + 1) words = readPointed (fuel + 1 + 1) words := by
  unfold readPointed
  refine bind_congr_ok (h.stepAfterPoint words (by omega)) ?_
  rintro ⟨moves, rest⟩ hrest
  have shorter := (allLeave (fuel + 1)).stepAfterPoint words moves rest hrest
  exact bind_congr_ok (h.steps rest (by omega)) fun _ _ => rfl

private theorem succ_filterInParens (h : AllSated fuel) (hw : 6 * words.length + 1 < fuel + 1) :
    readFilterInParens (fuel + 1) words = readFilterInParens (fuel + 1 + 1) words := by
  unfold readFilterInParens
  split
  · rename_i rest
    rw [List.length_cons] at hw
    exact bind_congr_ok (h.filter rest (by omega)) fun _ _ => rfl
  · rfl

private theorem succ_bracket (h : AllSated fuel) (hw : 6 * words.length < fuel + 1) :
    readBracket (fuel + 1) words = readBracket (fuel + 1 + 1) words := by
  unfold readBracket
  split
  · rename_i rest
    rw [List.length_cons] at hw
    exact bind_congr_ok (h.filterInParens rest (by omega)) fun _ _ => rfl
  · rfl
  · rfl

private theorem connect (h : AllSated fuel) (hw : 6 * words.length + 2 < fuel + 1)
    (moves : List Move)
    (after : List Lexeme) (hafter : after.length ≤ words.length) :
    (match skipGaps after with
      | .and :: rest => do
        let (more, rest) ← readFilter fuel rest
        .ok (moves ++ more ++ [.relate .and], rest)
      | .or :: rest => do
        let (more, rest) ← readFilter fuel rest
        .ok (moves ++ more ++ [.relate .or], rest)
      | rest => .ok (moves, rest) : Reading) =
    match skipGaps after with
      | .and :: rest => do
        let (more, rest) ← readFilter (fuel + 1) rest
        .ok (moves ++ more ++ [.relate .and], rest)
      | .or :: rest => do
        let (more, rest) ← readFilter (fuel + 1) rest
        .ok (moves ++ more ++ [.relate .or], rest)
      | rest => .ok (moves, rest) := by
  split
  · rename_i rest hand
    have shorter := length_of_skipGaps hand
    exact bind_congr_ok (h.filter rest (by omega)) fun _ _ => rfl
  · rename_i rest hor
    have shorter := length_of_skipGaps hor
    exact bind_congr_ok (h.filter rest (by omega)) fun _ _ => rfl
  · rfl

private theorem succ_filter (h : AllSated fuel) (hw : 6 * words.length + 2 < fuel + 1) :
    readFilter (fuel + 1) words = readFilter (fuel + 1 + 1) words := by
  have left := length_skipGaps_le words
  unfold readFilter
  split
  · rename_i rest hopen
    rw [hopen] at left
    refine bind_congr_ok (h.filterInParens _ (by omega)) ?_
    rintro ⟨moves, after⟩ hafter
    have shorter := (allLeave (fuel + 1)).filterInParens _ moves after hafter
    exact h.connect hw moves after (by omega)
  · refine bind_congr_ok (h.condition _ (by omega)) ?_
    rintro ⟨moves, after⟩ hafter
    have shorter := (allLeave (fuel + 1)).condition _ moves after hafter
    exact h.connect hw moves after (by omega)

private theorem succ_condition (h : AllSated fuel) (hw : 6 * words.length + 1 < fuel + 1) :
    readCondition (fuel + 1) words = readCondition (fuel + 1 + 1) words := by
  unfold readCondition
  refine bind_congr_ok (h.term words (by omega)) ?_
  rintro ⟨moves, rest⟩ hrest
  have shorter := (allLeave (fuel + 1)).term words moves rest hrest
  have left := length_skipGaps_le rest
  have tail : (skipGaps rest).tail.length ≤ (skipGaps rest).length := by simp
  have gaps := length_skipGaps_le (skipGaps rest).tail
  dsimp only
  split
  · exact bind_congr_ok (h.term _ (by omega)) fun _ _ => rfl
  · rfl

private theorem succ_term (h : AllSated fuel) (hw : 6 * words.length < fuel + 1) :
    readTerm (fuel + 1) words = readTerm (fuel + 1 + 1) words := by
  unfold readTerm
  split
  · rename_i rest
    rw [List.length_cons] at hw
    split
    · rfl
    · exact bind_congr_ok (h.steps rest (by omega)) fun _ _ => rfl
  · rename_i rest
    rw [List.length_cons] at hw
    exact bind_congr_ok (h.steps rest (by omega)) fun _ _ => rfl
  · rfl
  · rfl
  · rfl

end AllSated

private theorem allSated (fuel : Nat) : AllSated fuel := by
  induction fuel with
  | zero => exact .zero
  | succ fuel ih =>
    exact ⟨fun _ => ih.succ_steps, fun _ => ih.succ_stepAfterPoint, fun _ => ih.succ_pointed,
      fun _ => ih.succ_filterInParens, fun _ => ih.succ_bracket, fun _ => ih.succ_filter,
      fun _ => ih.succ_condition, fun _ => ih.succ_term⟩

/-- The steps that words describe, read with as many levels as they need. -/
def steps (words : List Lexeme) : Reading := readSteps (6 * words.length + 1) words

private theorem readSteps_eq_steps {fuel : Nat} {words : List Lexeme}
    (h : 6 * words.length < fuel) :
    readSteps fuel words = steps words := by
  induction fuel with
  | zero => omega
  | succ fuel ih =>
    by_cases enough : 6 * words.length < fuel
    · rw [← (allSated fuel).steps words enough, ih enough]
    · obtain rfl : fuel = 6 * words.length := by omega
      rfl

private theorem readSteps_name (fuel : Nat) (name : String) (words : List Lexeme) :
    readSteps (fuel + 3) (.dot :: .name name :: words) =
      (readSteps (fuel + 1) words).map fun r => (.child :: .key name :: r.1, r.2) := by
  rw [readSteps, readPointed, readStepAfterPoint]
  change (readSteps (fuel + 1) words >>= _) = _
  generalize readSteps (fuel + 1) words = r
  cases r with
  | error e => rfl
  | ok r => rfl

theorem steps_name (name : String) (words : List Lexeme) :
    steps (.dot :: .name name :: words) =
      (steps words).map fun r => (.child :: .key name :: r.1, r.2) := by
  have whole := readSteps_name (6 * words.length + 10) name words
  rwa [readSteps_eq_steps (by simp only [List.length_cons]; omega), readSteps_eq_steps (by omega)]
    at whole

private theorem readPosition_item {text : String} {position : Int} {d : Double}
    (hint : readInt? text = some position) (hdouble : Double.ofInt? position = some d)
    (words : List Lexeme) :
    readPosition text (.closeBracket :: words) = .ok ([.number d], .closeBracket :: words) := by
  -- Evaluation must not reach into the rounding of the position, so each bind is opened by a lemma.
  unfold readPosition
  rw [hint, needed_some, ok_bind]
  split
  · rename_i h
    cases h
  · rename_i h
    cases h
  · rw [hdouble, needed_some, ok_bind]
    rfl

private theorem readBracket_item {text : String} {position : Int} {d : Double}
    (hint : readInt? text = some position) (hdouble : Double.ofInt? position = some d)
    (fuel : Nat) (words : List Lexeme) :
    readBracket (fuel + 1) (.name text :: .closeBracket :: words) =
      .ok ([.bracket, .number d, .close], words) := by
  rw [readBracket]
  · rw [readIndexer, readPosition_item hint hdouble]
    rfl
  · simp
  · simp

private theorem readSteps_item {text : String} {position : Int} {d : Double}
    (hint : readInt? text = some position) (hdouble : Double.ofInt? position = some d)
    (fuel : Nat) (words : List Lexeme) :
    readSteps (fuel + 2) (.openBracket :: .name text :: .closeBracket :: words) =
      (readSteps (fuel + 1) words).map fun r => (.bracket :: .number d :: .close :: r.1, r.2) := by
  rw [readSteps]
  change (readBracket (fuel + 1) (.name text :: .closeBracket :: words) >>= _) = _
  rw [readBracket_item hint hdouble]
  change (readSteps (fuel + 1) words >>= _) = _
  generalize readSteps (fuel + 1) words = r
  cases r with
  | error e => rfl
  | ok r => rfl

theorem steps_item {text : String} {position : Int} {d : Double}
    (hint : readInt? text = some position) (hdouble : Double.ofInt? position = some d)
    (words : List Lexeme) :
    steps (.openBracket :: .name text :: .closeBracket :: words) =
      (steps words).map fun r => (.bracket :: .number d :: .close :: r.1, r.2) := by
  have whole := readSteps_item hint hdouble (6 * words.length + 17) words
  rwa [readSteps_eq_steps (by simp only [List.length_cons]; omega), readSteps_eq_steps (by omega)]
    at whole

private theorem readSteps_all (fuel : Nat) (words : List Lexeme) :
    readSteps (fuel + 2) (.openBracket :: .star :: .closeBracket :: words) =
      (readSteps (fuel + 1) words).map fun r => (.bracket :: .all :: .close :: r.1, r.2) := by
  rw [readSteps]
  change (readSteps (fuel + 1) words >>= _) = _
  generalize readSteps (fuel + 1) words = r
  cases r with
  | error e => rfl
  | ok r => rfl

theorem steps_all (words : List Lexeme) :
    steps (.openBracket :: .star :: .closeBracket :: words) =
      (steps words).map fun r => (.bracket :: .all :: .close :: r.1, r.2) := by
  have whole := readSteps_all (6 * words.length + 17) words
  rwa [readSteps_eq_steps (by simp only [List.length_cons]; omega), readSteps_eq_steps (by omega)]
    at whole

private theorem ofText_of_root {text : String} {words : List Lexeme}
    (h : Lexeme.ofText text.toList = .root :: words) :
    ofText text = match steps words with
      | .ok (moves, _) => .ok (.root :: moves)
      | .error left => .error (Lexeme.sizeOfFirst (words.length + 1 - left) text.toList) := by
  have enough : readSteps (6 * words.length + 12) words = steps words :=
    readSteps_eq_steps (by omega)
  cases hsteps : steps words with
  | error e => simp only [ofText, h, enough, hsteps, List.length_cons]
  | ok r => simp only [ofText, h, enough, hsteps]

theorem ofText_of_steps_ok {text : String} {words rest : List Lexeme} {moves : List Move}
    (hwords : Lexeme.ofText text.toList = .root :: words) (h : steps words = .ok (moves, rest)) :
    ofText text = .ok (.root :: moves) := by
  rw [ofText_of_root hwords, h]

theorem ofText_of_steps_error {text : String} {words : List Lexeme} {left : Nat}
    (hwords : Lexeme.ofText text.toList = .root :: words) (h : steps words = .error left) :
    ∃ place, ofText text = .error place := by
  rw [ofText_of_root hwords, h]
  exact ⟨_, rfl⟩

end Assay.Selector.Move
