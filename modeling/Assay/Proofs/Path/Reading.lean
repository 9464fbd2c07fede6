/- digest: The written form of a place is read back as the place, so the list of changes holds each
   place that was written once, and no two of them alike. -/

import Mathlib.Data.List.Induction
import Assay.Path.Read
import Assay.Proofs.Query.Place

set_option autoImplicit false
set_option relaxedAutoImplicit false

namespace Assay

namespace Text

private theorem dropWhile_eq_self_iff {p : Char → Bool} {cs : List Char} :
    cs.dropWhile p = cs ↔ ∀ c ∈ cs.head?, p c = false := by
  cases cs with
  | nil => simp
  | cons c rest =>
    cases hc : p c with
    | false => simp [hc]
    | true =>
      have shorter : (rest.dropWhile p).length < (c :: rest).length :=
        Nat.lt_succ_of_le (List.dropWhile_sublist p).length_le
      have differs : rest.dropWhile p ≠ c :: rest := fun same => by simp [same] at shorter
      simp [hc, differs]

private theorem trimChars_eq_self_iff {cs : List Char} : trimChars cs = cs ↔
    (∀ c ∈ cs.head?, isBlank c = false) ∧ ∀ c ∈ cs.getLast?, isBlank c = false := by
  rw [← dropWhile_eq_self_iff, ← List.head?_reverse, ← dropWhile_eq_self_iff, List.reverse_eq_iff.symm]
  constructor
  · intro trimmed
    have front : trimStartChars cs = cs := by
      refine (List.dropWhile_suffix isBlank).eq_of_length (Nat.le_antisymm ?_ ?_)
      · exact (List.dropWhile_sublist _).length_le
      · calc cs.length = (trimChars cs).length := by rw [trimmed]
          _ ≤ (trimStartChars cs).length := by
            simpa [trimChars, trimEndChars] using
              (List.dropWhile_sublist (l := (trimStartChars cs).reverse) isBlank).length_le
    refine ⟨front, ?_⟩
    rwa [trimChars, front] at trimmed
  · rintro ⟨front, back⟩
    rw [trimChars, trimStartChars, front]
    exact back

end Text

namespace Path

open Text (trimChars)

variable {first : Bool} {after : List Char}

/-- A name without brackets ends before a point, an opening bracket, or the end of the text. -/
private def EndsStep (after : List Char) : Prop := ∀ c ∈ after.head?, isOpen c = false

private theorem readSegments_name {c : Char} {name : List Char}
    (hname : ∀ d ∈ c :: name, isOpen d = true)
    (ends : EndsStep after) : readSegments first (c :: name ++ after) =
      (readSegments false after).map (.key (String.ofList (trimChars (c :: name))) :: ·) := by
  have opens : isOpen c = true := hname c List.mem_cons_self
  simp only [isOpen, Bool.and_eq_true, decide_eq_true_eq] at opens
  have inside : ∀ d ∈ name, isOpen d = true := fun d hd => hname d (List.mem_cons_of_mem c hd)
  have stop : after.dropWhile isOpen = after := Text.dropWhile_eq_self_iff.mpr ends
  have none : after.takeWhile isOpen = [] := by
    have parts := List.takeWhile_append_dropWhile (p := isOpen) (l := after)
    rw [stop] at parts
    exact List.append_left_eq_self.mp parts
  rw [List.cons_append, readSegments.eq_def]
  simp only [if_neg opens.1, if_neg opens.2, List.takeWhile_append_of_pos inside,
    List.dropWhile_append_of_pos inside, stop, none, List.append_nil]

private theorem readSegments_dot {c : Char} {rest : List Char} (hc : c ≠ '.') :
    readSegments false ('.' :: c :: rest) = readSegments false (c :: rest) := by
  rw [readSegments, if_pos rfl, if_neg Bool.false_ne_true]
  exact if_neg hc

private theorem readSegments_bracket {inner : List Char} (hinner : ']' ∉ inner) {s : Segment}
    (hs : readBracket inner = some s) :
    readSegments first ('[' :: (inner ++ ']' :: after)) = (readSegments false after).map (s :: ·) := by
  have before : ∀ c ∈ inner, decide (c ≠ ']') = true := fun c hc =>
    decide_eq_true fun equal => hinner (equal ▸ hc)
  have dropped : (inner ++ ']' :: after).dropWhile (· ≠ ']') = ']' :: after := by
    rw [List.dropWhile_append_of_pos before]
    simp
  have taken : (inner ++ ']' :: after).takeWhile (· ≠ ']') = inner := by
    rw [List.takeWhile_append_of_pos before]
    simp
  rw [readSegments.eq_def]
  simp only [if_neg (show '[' ≠ '.' by decide), if_pos]
  split
  · rename_i nothing
    rw [dropped] at nothing
    cases nothing
  · rename_i found
    rw [dropped] at found
    cases found
    rw [taken, hs]

private theorem readBracket_quoted (name : List Char) :
    readBracket ('\'' :: (name ++ ['\''])) = some (.key (String.ofList name)) := by
  have trimmed : trimChars ('\'' :: (name ++ ['\''])) = '\'' :: (name ++ ['\'']) := by
    refine Text.trimChars_eq_self_iff.mpr ⟨?_, ?_⟩
    · simp [Text.isBlank]
    · rw [← List.cons_append, List.getLast?_concat]
      simp [Text.isBlank]
  have unquoted : unquote? '\'' ('\'' :: (name ++ ['\''])) = some name := by
    simp [unquote?]
  rw [readBracket, trimmed, unquoted]
  rfl

private theorem readIndex_toDigits {n : Nat} (h : n ≤ indexLimit) :
    readIndex (Nat.toDigits 10 n) = some n := by
  have nonempty : Nat.toDigits 10 n ≠ [] := Nat.toDigits_ne_nil
  have digits : (Nat.toDigits 10 n).all Text.isDigit = true :=
    List.all_eq_true.mpr fun c hc => Text.isDigit_of_mem_toDigits hc
  have value := Text.digitsValue_toDigits n
  generalize Nat.toDigits 10 n = ds at nonempty digits value
  have unsigned : ∀ r, ds = '+' :: r → False := by
    rintro r rfl
    simp [Text.isDigit] at digits
  rw [readIndex.eq_2 ds unsigned, if_pos ⟨nonempty, digits⟩, value]
  exact if_pos h

private theorem readBracket_index {n : Nat} (h : n ≤ indexLimit) :
    readBracket (Nat.toDigits 10 n) = some (.index n) := by
  have digit {c : Char} (hc : c ∈ Nat.toDigits 10 n) : Text.isDigit c = true :=
    Text.isDigit_of_mem_toDigits hc
  have trimmed : trimChars (Nat.toDigits 10 n) = Nat.toDigits 10 n :=
    Text.trimChars_of_no_blank fun c hc => Text.isBlank_of_isNameChar (Text.isNameChar_of_isDigit (digit hc))
  have unquoted (quote : Char) (hquote : Text.isDigit quote = false) :
      unquote? quote (Nat.toDigits 10 n) = none := by
    cases hds : Nat.toDigits 10 n with
    | nil => rfl
    | cons c rest =>
      have differs : c ≠ quote := by
        rintro rfl
        rw [digit (hds ▸ List.mem_cons_self)] at hquote
        cases hquote
      rw [unquote?, if_neg differs]
  rw [readBracket, trimmed, unquoted _ (by decide), unquoted _ (by decide)]
  simp [readIndex_toDigits h]

end Path

/-- A step that can be read back: a name that closes no bracket, or an index in the range of
indices. -/
def Segment.IsReadable : Segment → Prop
  | .key name => ']' ∉ name.toList
  | .index position => position ≤ Path.indexLimit

instance : DecidablePred Segment.IsReadable
  | .key name => inferInstanceAs (Decidable (']' ∉ name.toList))
  | .index position => inferInstanceAs (Decidable (position ≤ Path.indexLimit))

/-- A place that can be read back: its root is a name that ends nowhere inside and has no blanks
around it, and its steps can be read back. -/
structure Path.IsReadable (p : Path) : Prop where
  nonempty : p.root ≠ ""
  undivided : '.' ∉ p.root.toList ∧ '[' ∉ p.root.toList
  trimmed : Text.trim p.root = p.root
  segments : ∀ s ∈ p.segments, s.IsReadable

instance : DecidablePred Path.IsReadable := fun p =>
  decidable_of_iff (p.root ≠ "" ∧ ('.' ∉ p.root.toList ∧ '[' ∉ p.root.toList) ∧
      Text.trim p.root = p.root ∧ ∀ s ∈ p.segments, s.IsReadable)
    ⟨fun h => ⟨h.1, h.2.1, h.2.2.1, h.2.2.2⟩,
      fun h => ⟨h.nonempty, h.undivided, h.trimmed, h.segments⟩⟩

namespace Segment

private theorem toList_display_quoted {name : String} (h : Text.isPlainName name = false) :
    (display (.key name)).toList = '[' :: (('\'' :: (name.toList ++ ['\''])) ++ [']']) := by
  rw [display, if_neg (by simp [h]), String.toList_append, String.toList_append]
  simp

private theorem endsStep_display (s : Segment) (after : List Char) :
    Path.EndsStep (s.display.toList ++ after) := by
  cases s with
  | key name =>
    cases plain : Text.isPlainName name with
    | true => rw [toList_display_key plain]; simp [Path.EndsStep, Path.isOpen]
    | false => rw [toList_display_quoted plain]; simp [Path.EndsStep, Path.isOpen]
  | index position => rw [toList_display_index]; simp [Path.EndsStep, Path.isOpen]

private theorem endsStep_flatMap_display (segments : List Segment) :
    Path.EndsStep (segments.flatMap fun s => s.display.toList) := by
  cases segments with
  | nil => simp [Path.EndsStep]
  | cons s rest => exact s.endsStep_display _

private theorem isBlank_of_mem_getLast?_display (s : Segment) {c : Char}
    (hc : c ∈ s.display.toList.getLast?) :
    Text.isBlank c = false := by
  cases s with
  | key name =>
    cases plain : Text.isPlainName name with
    | true =>
      rw [toList_display_key plain] at hc
      rcases List.mem_cons.mp (List.mem_of_getLast? hc) with rfl | inside
      · decide
      · exact Text.isBlank_of_isNameChar ((Text.isPlainName_iff.mp plain).2 c inside)
    | false =>
      rw [toList_display_quoted plain, ← List.cons_append, List.getLast?_concat] at hc
      cases hc
      decide
  | index position =>
    rw [toList_display_index, ← List.cons_append, List.getLast?_concat] at hc
    cases hc
    decide

private theorem visible_flatMap_display (segments : List Segment) {front : List Char}
    (h : ∀ c ∈ front.getLast?, Text.isBlank c = false) :
    ∀ c ∈ (front ++ segments.flatMap fun s => s.display.toList).getLast?, Text.isBlank c = false := by
  induction segments generalizing front with
  | nil => rwa [List.flatMap_nil, List.append_nil]
  | cons s rest ih =>
    rw [List.flatMap_cons, ← List.append_assoc]
    refine ih fun c hc => ?_
    rw [List.getLast?_append] at hc
    rcases Option.or_eq_some_iff.mp hc with own | ⟨-, before⟩
    · exact s.isBlank_of_mem_getLast?_display own
    · exact h c before

private theorem readSegments_display {s : Segment} (h : s.IsReadable) {after : List Char}
    (ends : Path.EndsStep after) :
    Path.readSegments false (s.display.toList ++ after) = (Path.readSegments false after).map (s :: ·) := by
  cases s with
  | key name =>
    cases plain : Text.isPlainName name with
    | true =>
      obtain ⟨hne, hname⟩ := Text.isPlainName_iff.mp plain
      have opens : ∀ c ∈ name.toList, Path.isOpen c = true := fun c hc => by
        simp [Path.isOpen, Selector.Lexeme.ne_of_isNameChar (hname c hc) (d := '.') (by decide),
          Selector.Lexeme.ne_of_isNameChar (hname c hc) (d := '[') (by decide)]
      have trimmed : Text.trimChars name.toList = name.toList :=
        Text.trimChars_of_no_blank fun c hc => Text.isBlank_of_isNameChar (hname c hc)
      obtain ⟨c, rest, hcs⟩ := List.exists_cons_of_ne_nil hne
      have dot : c ≠ '.' :=
        Selector.Lexeme.ne_of_isNameChar (hname c (hcs ▸ List.mem_cons_self)) (by decide)
      rw [hcs] at opens trimmed
      rw [toList_display_key plain, hcs, List.cons_append, List.cons_append, Path.readSegments_dot dot,
        ← List.cons_append, Path.readSegments_name opens ends, trimmed, ← hcs, String.ofList_toList]
    | false =>
      have inner : ']' ∉ '\'' :: (name.toList ++ ['\'']) := by
        have outside : ']' ∉ name.toList := h
        simp [outside]
      rw [toList_display_quoted plain, List.cons_append, List.append_assoc, List.singleton_append,
        Path.readSegments_bracket inner (Path.readBracket_quoted _), String.ofList_toList]
  | index position =>
    have inner : ']' ∉ Nat.toDigits 10 position := fun inside =>
      absurd (Text.isDigit_of_mem_toDigits inside) (by decide)
    rw [toList_display_index, List.cons_append, List.append_assoc, List.singleton_append,
      Path.readSegments_bracket inner (Path.readBracket_index h)]

private theorem readSegments_flatMap_display {segments : List Segment}
    (h : ∀ s ∈ segments, s.IsReadable) :
    Path.readSegments false (segments.flatMap fun s => s.display.toList) = some segments := by
  induction segments with
  | nil => rw [List.flatMap_nil, Path.readSegments]
  | cons s rest ih =>
    rw [List.flatMap_cons, readSegments_display (h s List.mem_cons_self) (endsStep_flatMap_display rest),
      ih fun t ht => h t (List.mem_cons_of_mem s ht), Option.map_some]

end Segment

namespace Path

variable {p q : Path}

private theorem IsReadable.toList_root_ne_nil (h : p.IsReadable) : p.root.toList ≠ [] :=
  fun none => h.nonempty (String.toList_eq_nil_iff.mp none)

private theorem IsReadable.trimChars_root (h : p.IsReadable) :
    Text.trimChars p.root.toList = p.root.toList := by
  rw [← String.toList_ofList (l := Text.trimChars _)]
  exact congrArg String.toList h.trimmed

private theorem IsReadable.trimChars_display (h : p.IsReadable) :
    Text.trimChars p.display.toList = p.display.toList := by
  refine Text.trimChars_eq_self_iff.mpr ⟨?_, ?_⟩
  · rw [toList_display]
    simp [Text.isBlank]
  · obtain ⟨c, rest, hroot⟩ := List.exists_cons_of_ne_nil h.toList_root_ne_nil
    have last := (Text.trimChars_eq_self_iff.mp h.trimChars_root).2
    rw [toList_display, toList_tail, ← List.cons_append, ← List.cons_append]
    refine Segment.visible_flatMap_display p.segments ?_
    rwa [hroot, List.getLast?_cons_cons, List.getLast?_cons_cons, ← hroot]

private theorem IsReadable.read?_display (h : p.IsReadable) : read? p.display = some p := by
  have opens : ∀ c ∈ p.root.toList, isOpen c = true := fun c hc => by
    have dot : c ≠ '.' := fun equal => h.undivided.1 (equal ▸ hc)
    have bracket : c ≠ '[' := fun equal => h.undivided.2 (equal ▸ hc)
    simp [isOpen, dot, bracket]
  obtain ⟨c, rest, hroot⟩ := List.exists_cons_of_ne_nil h.toList_root_ne_nil
  have body : readSegments true (p.root.toList ++ p.tail.toList) = some (.key p.root :: p.segments) := by
    rw [hroot] at opens
    rw [toList_tail, hroot, readSegments_name opens (Segment.endsStep_flatMap_display _),
      Segment.readSegments_flatMap_display h.segments, ← hroot, h.trimChars_root, String.ofList_toList]
    rfl
  rw [read?, h.trimChars_display, toList_display]
  simp only [body]
  rfl

private theorem IsReadable.eq_of_display_eq (hp : p.IsReadable) (hq : q.IsReadable)
    (same : p.display = q.display) : p = q := by
  have both : some p = some q := by rw [← hp.read?_display, same, hq.read?_display]
  exact Option.some.inj both

end Path

namespace Changes

def texts (c : Changes) : Change → List String
  | .added => c.added
  | .modified => c.modified

def recordAll (c : Changes) (writes : List (Path × Change)) : Changes :=
  writes.foldl (fun c write => c.record write.1 write.2) c

/-- The places of the writes of one kind, in order. -/
def placesOf (kind : Change) (writes : List (Path × Change)) : List Path :=
  (writes.filter fun write => write.2 = kind).map (·.1)

private theorem recordAll_concat (c : Changes) (writes : List (Path × Change)) (p : Path)
    (change : Change) :
    c.recordAll (writes ++ [(p, change)]) = (c.recordAll writes).record p change := by
  rw [recordAll, List.foldl_append]
  rfl

private theorem texts_record (c : Changes) (p : Path) (kind change : Change) :
    (c.record p change).texts kind = if change = kind then note p.display (c.texts kind) else c.texts kind := by
  cases change <;> cases kind <;> rfl

private theorem placesOf_concat (kind change : Change) (writes : List (Path × Change)) (p : Path) :
    placesOf kind (writes ++ [(p, change)]) =
      if change = kind then placesOf kind writes ++ [p] else placesOf kind writes := by
  by_cases same : change = kind
  · simp [placesOf, same]
  · simp [placesOf, same]

private theorem eraseDups_concat {α : Type} [DecidableEq α] (l : List α) (a : α) :
    (l ++ [a]).eraseDups = if a ∈ l then l.eraseDups else l.eraseDups ++ [a] := by
  rw [List.eraseDups_append, List.removeAll]
  by_cases inside : a ∈ l
  · simp [inside]
  · simp [inside, List.eraseDups_cons]

private theorem texts_recordAll {writes : List (Path × Change)}
    (h : ∀ write ∈ writes, write.1.IsReadable)
    (kind : Change) :
    (none.recordAll writes).texts kind = (placesOf kind writes).eraseDups.map Path.display := by
  induction writes using List.reverseRecOn with
  | nil => cases kind <;> rfl
  | append_singleton writes write ih =>
    obtain ⟨p, change⟩ := write
    have before : ∀ other ∈ writes, other.1.IsReadable := fun other hother =>
      h other (List.mem_append_left _ hother)
    have readable : p.IsReadable := h (p, change) (by simp)
    rw [recordAll_concat, texts_record, ih before, placesOf_concat]
    split
    · have recorded : p.display ∈ (placesOf kind writes).eraseDups.map Path.display ↔
          p ∈ placesOf kind writes := by
        rw [List.mem_map]
        constructor
        · rintro ⟨q, hq, same⟩
          rw [List.mem_eraseDups] at hq
          obtain ⟨other, hother, rfl⟩ := List.mem_map.mp hq
          have equal := (before other (List.mem_of_mem_filter hother)).eq_of_display_eq readable same
          exact equal ▸ hq
        · exact fun hp => ⟨p, List.mem_eraseDups.mpr hp, rfl⟩
      rw [eraseDups_concat, note]
      simp only [List.contains_iff_mem, recorded]
      split
      · rfl
      · rw [List.map_append, List.map_singleton]
    · rfl

end Changes

/-- The written form of a place is read back as the place, so two places never have the same one;
and the texts that a list of changes holds of a kind are read back as the places so written, each of
them once, in the order in which they were first written. -/
theorem Path.display_names_place :
    (∀ p : Path, p.IsReadable → read? p.display = some p) ∧
    (∀ p q : Path, p.IsReadable → q.IsReadable → p ≠ q → p.display ≠ q.display) ∧
    ∀ writes : List (Path × Change), (∀ write ∈ writes, write.1.IsReadable) → ∀ kind,
      ((Changes.none.recordAll writes).texts kind).map read? =
        (Changes.placesOf kind writes).eraseDups.map some := by
  refine ⟨fun p hp => hp.read?_display, fun p q hp hq differ same => differ (hp.eq_of_display_eq hq same), ?_⟩
  intro writes h kind
  rw [Changes.texts_recordAll h, List.map_map]
  refine List.map_congr_left fun p hp => ?_
  obtain ⟨write, hwrite, rfl⟩ := List.mem_map.mp (List.mem_eraseDups.mp hp)
  exact (h write (List.mem_of_mem_filter hwrite)).read?_display

example : Path.display ⟨"a.b", []⟩ = Path.display ⟨"a", [.key "b"]⟩ := by decide +kernel

/-- A place below names with quotes, points, brackets and nothing in them, and the last index there
is. -/
def Path.quoted : Path :=
  ⟨"my root", [.key "it's", .key "", .key " a.b[0", .index (2 ^ 64 - 1), .key "plain-1"]⟩

/-- A place whose name looks like the steps of another one. -/
def Path.lookalike : Path := ⟨"my root", [.key "it's'['"]⟩

theorem Path.quoted_names_place :
    quoted.IsReadable ∧ lookalike.IsReadable ∧ read? quoted.display = some quoted ∧
    quoted.display = "$.my root['it's'][''][' a.b[0'][18446744073709551615].plain-1" ∧
    lookalike.display ≠ quoted.display ∧
    ((Changes.none.recordAll [(quoted, .added), (lookalike, .modified), (lookalike, .added),
      (quoted, .added)]).texts .added).map read? = [some quoted, some lookalike] := by
  have hquoted : quoted.IsReadable := by decide +kernel
  have hlookalike : lookalike.IsReadable := by decide +kernel
  obtain ⟨reads, apart, recorded⟩ := display_names_place
  refine ⟨hquoted, hlookalike, reads _ hquoted, by decide +kernel,
    apart _ _ hlookalike hquoted (by decide +kernel), ?_⟩
  rw [recorded _ (by decide +kernel)]
  decide +kernel

end Assay
