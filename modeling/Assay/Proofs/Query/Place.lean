/- digest: The query for the written form of a plain place finds what lies there, so what was
   written is read back; by an index into an object it finds what the arrays among the members have
   there. -/

import Assay.Proofs.Number.Whole
import Assay.Proofs.Path.Parting
import Assay.Proofs.Query.Root

set_option autoImplicit false
set_option relaxedAutoImplicit false

namespace Assay

open Selector (Lexeme Move Node Walk)

namespace Json

/-- The parts that one step of a query finds: in an object, an index is looked for in the arrays
among the members. -/
def finds : Segment → Json → List Json
  | .index position, .object members => members.filterMap fun m => child? (.index position) m.2
  | s, v => (child? s v).toList

def parts : Json → List Json
  | .array items => items
  | .object members => members.map (·.2)
  | _ => []

def findsAll : List Segment → Json → List Json
  | [], v => [v]
  | s :: rest, v => (finds s v).flatMap (findsAll rest)

/-- Somewhere along the steps an index falls on an object. -/
def IndexesObject (v : Json) (segments : List Segment) : Prop :=
  ∃ before position after members,
    segments = before ++ .index position :: after ∧ get? before v = some (.object members)

variable {s : Segment} {rest segments : List Segment} {u v : Json}

private theorem finds_of_child? (h : child? s v = some u) : finds s v = [u] := by
  unfold finds
  split
  · cases h
  · rw [h, Option.toList_some]

private theorem finds_of_no_child? (h : child? s v = none)
    (ho : ∀ position members, s = .index position → v ≠ .object members) : finds s v = [] := by
  unfold finds
  split
  · exact absurd rfl (ho _ _ rfl)
  · rw [h, Option.toList_none]

theorem findsAll_of_get? (h : get? segments v = some u) : findsAll segments v = [u] := by
  induction segments generalizing v with
  | nil =>
    cases h
    rfl
  | cons s rest ih =>
    obtain ⟨w, hw, hrest⟩ := Option.bind_eq_some_iff.mp h
    rw [findsAll, finds_of_child? hw, List.flatMap_singleton, ih hrest]

private theorem IndexesObject.cons {w : Json} (hw : child? s v = some w)
    (h : IndexesObject w rest) :
    IndexesObject v (s :: rest) := by
  obtain ⟨before, position, after, members, rfl, hobject⟩ := h
  refine ⟨s :: before, position, after, members, rfl, ?_⟩
  rw [get?, hw, Option.bind_some, hobject]

private theorem findsAll_of_no_get? (h : get? segments v = none) (ho : ¬ IndexesObject v segments) :
    findsAll segments v = [] := by
  induction segments generalizing v with
  | nil => cases h
  | cons s rest ih =>
    cases hw : child? s v with
    | none =>
      have apart (position : Nat) (members : List (String × Json)) (hs : s = .index position) :
          v ≠ .object members := by
        rintro rfl
        exact ho ⟨[], position, rest, members, by rw [hs, List.nil_append], rfl⟩
      rw [findsAll, finds_of_no_child? hw apart, List.flatMap_nil]
    | some w =>
      rw [get?, hw, Option.bind_some] at h
      rw [findsAll, finds_of_child? hw, List.flatMap_singleton, ih h fun inside => ho (inside.cons hw)]

end Json

namespace Selector

/-- The nodes that one step of a query finds. -/
def Node.findsAt (nodes : List Node) : Segment → List Node
  | .key name => nodes.flatMap fun n => (n.member? name).toList
  | .index position => Walk.itemsAt position nodes

private theorem Node.value_member? (name : String) (n : Node) :
    (n.member? name).map (·.value) = Json.child? (.key name) n.value := by
  obtain ⟨address, v⟩ := n
  cases v with
  | object members =>
    have found := findMember_map name 0 members
    simp only [member?, Option.map_map, Json.child?, ← found]
    rfl
  | _ => rfl

private theorem Node.getElem?_absolute {α : Type} (position : Nat) (items : List α) :
    items[absolute position items.length]? = items[position]? := by
  have held : absolute position items.length = min position items.length := by
    rw [absolute, if_neg (by omega), Int.toNat_natCast]
  rw [held]
  by_cases h : position < items.length
  · rw [Nat.min_eq_left (by omega)]
  · rw [Nat.min_eq_right (by omega), List.getElem?_eq_none (Nat.le_refl _),
      List.getElem?_eq_none (by omega)]

private theorem Walk.value_itemAt (position : Nat) (n : Node) :
    (itemAt position n).map (·.value) = Json.child? (.index position) n.value := by
  obtain ⟨address, v⟩ := n
  cases v with
  | array items =>
    simp only [itemAt, Node.item?, Node.getElem?_absolute, Option.map_map, Json.child?]
    exact Option.map_id'
  | _ => rfl

private theorem Node.value_number (address : List Nat) (start : Nat) (vs : List Json) :
    (number address start vs).map (·.value) = vs := by
  induction vs generalizing start with
  | nil => rfl
  | cons v vs ih => rw [number, List.map_cons, ih]

theorem Node.value_flatMap_children (nodes : List Node) :
    (nodes.flatMap children).map (·.value) = (nodes.map (·.value)).flatMap Json.parts := by
  rw [List.map_flatMap, List.flatMap_map]
  congr 1
  funext n
  obtain ⟨address, v⟩ := n
  cases v with
  | array items => exact value_number address 0 items
  | object members => exact value_number address 0 _
  | _ => rfl

private theorem Node.value_findsAt (nodes : List Node) (s : Segment) :
    (findsAt nodes s).map (·.value) = (nodes.map (·.value)).flatMap (Json.finds s) := by
  cases s with
  | key name =>
    simp only [findsAt, List.map_flatMap, List.flatMap_map]
    congr 1
    funext n
    rw [← Option.toList_map, value_member?]
    cases n.value <;> rfl
  | index position =>
    simp only [findsAt, Walk.itemsAt_eq, List.map_flatMap, List.flatMap_map]
    congr 1
    funext n
    obtain ⟨address, v⟩ := n
    cases v with
    | object members =>
      have byValue (below : List Node) :
          below.filterMap (fun n => Json.child? (.index position) n.value) =
            (below.map (·.value)).filterMap (Json.child? (.index position)) := by
        rw [List.filterMap_map]
        rfl
      simp only [children, List.map_filterMap, Walk.value_itemAt, Json.finds]
      rw [byValue, value_number, List.filterMap_map]
      rfl
    | _ =>
      simp only [← Option.toList_map, Walk.value_itemAt]
      rfl

theorem Node.value_foldl_findsAt (segments : List Segment) (nodes : List Node) :
    (segments.foldl findsAt nodes).map (·.value) =
      (nodes.map (·.value)).flatMap (Json.findsAll segments) := by
  induction segments generalizing nodes with
  | nil => simp [Json.findsAll]
  | cons s segments ih =>
    rw [List.foldl_cons, ih, value_findsAt, List.flatMap_assoc]
    rfl

theorem Walk.run_item (nodes : List Node) (d : Double) (route : List Move) :
    (start nodes).run (.bracket :: .number d :: .close :: route) =
      (start (itemsAt (toPosition d) nodes)).run route := by
  have moved : (start nodes).run (.bracket :: .number d :: .close :: route) =
      (arrive ⟨nodes, [.bracket], []⟩ (itemsAt (toPosition d) nodes)).dropMark.run route := rfl
  rw [moved]
  cases itemsAt (toPosition d) nodes <;> rfl

end Selector

/-- A step whose written form needs no quotes, with an index that a write may make. -/
def Segment.IsPlain : Segment → Prop
  | .key name => Text.isPlainName name = true
  | .index position => position ≤ Context.maxArrayIndex

instance : DecidablePred Segment.IsPlain
  | .key name => inferInstanceAs (Decidable (Text.isPlainName name = true))
  | .index position => inferInstanceAs (Decidable (position ≤ Context.maxArrayIndex))

/-- A place whose written form needs no quotes, with indices that writes may make. -/
structure Path.IsPlain (p : Path) : Prop where
  root : Text.isPlainName p.root = true
  segments : ∀ s ∈ p.segments, s.IsPlain

instance : DecidablePred Path.IsPlain := fun p =>
  decidable_of_iff (Text.isPlainName p.root = true ∧ ∀ s ∈ p.segments, s.IsPlain)
    ⟨fun h => ⟨h.1, h.2⟩, fun h => ⟨h.root, h.segments⟩⟩

/-- A step whose written form is found again: a plain name, or an index that is kept exactly as a
number with 53 bits. No array is as long as that. -/
def Segment.IsLegible : Segment → Prop
  | .key name => Text.isPlainName name = true
  | .index position => position < 2 ^ 53

instance : DecidablePred Segment.IsLegible
  | .key name => inferInstanceAs (Decidable (Text.isPlainName name = true))
  | .index position => inferInstanceAs (Decidable (position < 2 ^ 53))

/-- A place whose written form is found again. -/
structure Path.IsLegible (p : Path) : Prop where
  root : Text.isPlainName p.root = true
  segments : ∀ s ∈ p.segments, s.IsLegible

instance : DecidablePred Path.IsLegible := fun p =>
  decidable_of_iff (Text.isPlainName p.root = true ∧ ∀ s ∈ p.segments, s.IsLegible)
    ⟨fun h => ⟨h.1, h.2⟩, fun h => ⟨h.root, h.segments⟩⟩

private theorem Segment.IsPlain.legible {s : Segment} (h : s.IsPlain) : s.IsLegible := by
  cases s with
  | key name => exact h
  | index position =>
    have small : position ≤ 10000 := h
    exact Nat.lt_of_le_of_lt small (by decide)

theorem Path.IsPlain.legible {p : Path} (h : p.IsPlain) : p.IsLegible :=
  ⟨h.root, fun s hs => (h.segments s hs).legible⟩

theorem Text.isPlainName_iff {name : String} : isPlainName name = true ↔
    name.toList ≠ [] ∧ ∀ c ∈ name.toList, isNameChar c = true := by
  simp [isPlainName, String.toList_eq_nil_iff]

theorem Text.trimChars_of_no_blank {cs : List Char} (h : ∀ c ∈ cs, isBlank c = false) :
    trimChars cs = cs := by
  have kept {l : List Char} (hl : ∀ c ∈ l, isBlank c = false) : l.dropWhile isBlank = l := by
    cases l with
    | nil => rfl
    | cons c rest => simp [hl c List.mem_cons_self]
  rw [trimChars, trimStartChars, kept h, trimEndChars,
    kept fun c hc => h c (List.mem_reverse.mp hc), List.reverse_reverse]

namespace Segment

theorem toList_display_key {name : String} (h : Text.isPlainName name = true) :
    (display (.key name)).toList = '.' :: name.toList := by
  rw [display, if_pos h, String.toList_append]
  rfl

theorem toList_display_index (position : Nat) :
    (display (.index position)).toList = '[' :: (Nat.toDigits 10 position ++ [']']) := by
  rw [display, String.toList_append, String.toList_append, Nat.toString_eq_ofList_toDigits,
    String.toList_ofList (l := Nat.toDigits 10 position)]
  rfl

private theorem mem_display {s : Segment} (h : s.IsLegible) {c : Char} (hc : c ∈ s.display.toList) :
    Text.isNameChar c = true ∨ c ∈ ".[]".toList := by
  cases s with
  | key name =>
    rw [toList_display_key h, List.mem_cons] at hc
    rcases hc with rfl | inside
    · exact .inr (by decide)
    · exact .inl ((Text.isPlainName_iff.mp h).2 c inside)
  | index position =>
    rw [toList_display_index, List.mem_cons, List.mem_append, List.mem_singleton] at hc
    rcases hc with rfl | inside | rfl
    · exact .inr (by decide)
    · exact .inl (Text.isNameChar_of_isDigit (Text.isDigit_of_mem_toDigits inside))
    · exact .inr (by decide)

private theorem endsName_display {segments : List Segment} (h : ∀ s ∈ segments, s.IsLegible)
    {following : List Char} (ends : Lexeme.EndsName following) :
    Lexeme.EndsName ((segments.flatMap fun s => s.display.toList) ++ following) := by
  cases segments with
  | nil => exact ends
  | cons s rest =>
    rw [List.flatMap_cons]
    cases s with
    | key name =>
      rw [toList_display_key (h _ List.mem_cons_self)]
      rfl
    | index position =>
      rw [toList_display_index]
      rfl

private theorem exists_course {segments : List Segment} (h : ∀ s ∈ segments, s.IsLegible)
    {following : List Char} (ends : Lexeme.EndsName following) {more : List Move}
    (hmore : Move.steps (Lexeme.ofText following) = .ok (more, [])) (honce : .root ∉ more) :
    ∃ moves, Move.steps (Lexeme.ofText
        ((segments.flatMap fun s => s.display.toList) ++ following)) = .ok (moves, []) ∧
      .root ∉ moves ∧ ∀ nodes, (Walk.start nodes).run moves =
        (Walk.start (segments.foldl Selector.Node.findsAt nodes)).run more := by
  induction segments with
  | nil => exact ⟨more, hmore, honce, fun _ => rfl⟩
  | cons s rest ih =>
    obtain ⟨moves, hmoves, hroot, hrun⟩ := ih fun t ht => h t (List.mem_cons_of_mem _ ht)
    have plain := h s List.mem_cons_self
    have ends := endsName_display (fun t ht => h t (List.mem_cons_of_mem _ ht)) ends
    rw [List.flatMap_cons, List.append_assoc]
    cases s with
    | key name =>
      obtain ⟨hne, hname⟩ := Text.isPlainName_iff.mp plain
      refine ⟨.child :: .key name :: moves, ?_, by simpa using hroot, fun nodes => ?_⟩
      · rw [toList_display_key plain, List.cons_append, Lexeme.ofText_member hne hname ends,
          String.ofList_toList, Move.steps_name, hmoves]
        rfl
      · rw [Walk.run_key, hrun]
        rfl
    | index position =>
      have small : position < 2 ^ 53 := plain
      have hint := Move.readInt?_toString (n := position) (by omega)
      obtain ⟨d, hdouble, hposition⟩ := Walk.exists_position small
      have digits : ∀ c ∈ Nat.toDigits 10 position, Text.isNameChar c = true :=
        fun c hc => Text.isNameChar_of_isDigit (Text.isDigit_of_mem_toDigits hc)
      refine ⟨.bracket :: .number d :: .close :: moves, ?_, by simpa using hroot, fun nodes => ?_⟩
      · rw [toList_display_index, List.cons_append, List.append_assoc, List.singleton_append,
          Lexeme.ofText_item Nat.toDigits_ne_nil digits, ← Nat.toString_eq_ofList_toDigits,
          Move.steps_item hint hdouble, hmoves]
        rfl
      · rw [Walk.run_item, hposition, hrun]
        rfl

end Segment

namespace Path

variable {p : Path}

def tail (p : Path) : String := String.join (p.segments.map Segment.display)

theorem toList_tail (p : Path) : p.tail.toList = p.segments.flatMap fun s => s.display.toList := by
  rw [tail, String.toList_join, List.flatMap_map]

theorem toList_display (p : Path) :
    p.display.toList = '$' :: '.' :: (p.root.toList ++ p.tail.toList) := by
  rw [display, String.toList_append, String.toList_append]
  rfl

private theorem endsName_tail (h : p.IsLegible) {following : List Char}
    (ends : Lexeme.EndsName following) :
    Lexeme.EndsName (p.tail.toList ++ following) := by
  rw [toList_tail]
  exact Segment.endsName_display h.segments ends

private theorem splitRoot?_display (h : p.IsLegible) {following : String}
    (ends : Lexeme.EndsName following.toList) :
    Context.splitRoot? (p.display ++ following) = some (p.root, p.tail ++ following) := by
  obtain ⟨hne, hname⟩ := Text.isPlainName_iff.mp h.root
  obtain ⟨taken, dropped⟩ := (endsName_tail h ends).takeWhile_isNameChar
  have chars : (p.display ++ following).toList =
      '$' :: '.' :: (p.root.toList ++ (p.tail.toList ++ following.toList)) := by
    rw [String.toList_append, toList_display, List.cons_append, List.cons_append, List.append_assoc]
  simp only [Context.splitRoot?, chars, List.takeWhile_append_of_pos hname,
    List.dropWhile_append_of_pos hname, taken, dropped, List.append_nil, String.ofList_toList,
    String.ofList_append]

/-- The characters of legible places: those of their steps and the sign of the root. -/
theorem mem_display (h : p.IsLegible) {c : Char} (hc : c ∈ p.display.toList) :
    Text.isNameChar c = true ∨ c ∈ "$.[]".toList := by
  rw [toList_display, List.mem_cons, List.mem_cons, List.mem_append, toList_tail,
    List.mem_flatMap] at hc
  rcases hc with rfl | rfl | inside | ⟨s, hs, inside⟩
  · exact .inr (by decide)
  · exact .inr (by decide)
  · exact .inl ((Text.isPlainName_iff.mp h.root).2 c inside)
  · exact (Segment.mem_display (h.segments s hs) inside).imp_right (List.mem_cons_of_mem '$')

theorem isBlank_of_mem_display (h : p.IsLegible) {c : Char} (hc : c ∈ p.display.toList) :
    Text.isBlank c = false := by
  rcases mem_display h hc with name | special
  · exact Text.isBlank_of_isNameChar name
  · have none : "$.[]".toList.all (fun d => !Text.isBlank d) = true := by decide
    simpa using List.all_eq_true.mp none c special

theorem trim_display (h : p.IsLegible) {following : String}
    (blank : ∀ c ∈ following.toList, Text.isBlank c = false) :
    Text.trim (p.display ++ following) = p.display ++ following := by
  rw [Text.trim, Text.trimChars_of_no_blank, String.ofList_toList]
  intro c hc
  rw [String.toList_append, List.mem_append] at hc
  exact hc.elim (isBlank_of_mem_display h) (blank c)

private theorem startsWith_display (p : Path) (following : String) :
    Text.startsWith (p.display ++ following) "$" = true := by
  rw [Text.startsWith, String.toList_append, toList_display]
  rfl

end Path

namespace Context

variable {c d : Context} {p : Path} {v : Json}

private theorem query_display_append (h : p.IsLegible) (following : String)
    (ends : Lexeme.EndsName following.toList)
    (blank : ∀ c ∈ following.toList, Text.isBlank c = false) {more : List Move}
    (hmore : Move.steps (Lexeme.ofText following.toList) = .ok (more, [])) (honce : .root ∉ more) :
    c.query (p.display ++ following) =
      match c.root? p.root with
      | none => .ok []
      | some tree =>
        (Selector.outcome ((Walk.start (p.segments.foldl Node.findsAt [.whole tree])).run more)).mapError
          (.selection (p.display ++ following)) := by
  have trimmed := Path.trim_display h blank
  have sign : Text.startsWith (Text.trim (p.display ++ following)) "$" = true := by
    rw [trimmed, Path.startsWith_display]
  have split : splitRoot? (Text.trim (p.display ++ following)) =
      some (p.root, p.tail ++ following) := by
    rw [trimmed, Path.splitRoot?_display h ends]
  cases hroot : c.root? p.root with
  | none => exact query_of_no_root sign split hroot
  | some tree =>
    obtain ⟨moves, hmoves, once, hrun⟩ := Segment.exists_course h.segments ends hmore honce
    rw [← Path.toList_tail, ← String.toList_append] at hmoves
    have tail : Lexeme.EndsName (p.tail ++ following).toList := by
      rw [String.toList_append]
      exact Path.endsName_tail h ends
    have route := Move.ofText_of_steps_ok (ofText_below tail) hmoves
    rw [query_of_root sign split hroot, Selector.select_of_route route once, hrun, trimmed]

private theorem query_of_isLegible (h : p.IsLegible) : c.query p.display =
    .ok ((c.root? p.root).toList.flatMap (Json.findsAll p.segments)) := by
  have alone : p.display ++ "" = p.display := String.append_empty
  rw [← alone, query_display_append h "" trivial (by simp) rfl List.not_mem_nil]
  cases hroot : c.root? p.root with
  | none => rfl
  | some tree =>
    exact congrArg Except.ok (Node.value_foldl_findsAt p.segments [.whole tree])

private theorem query_display_eq (h : p.IsPlain) : c.query p.display =
    .ok ((c.root? p.root).toList.flatMap (Json.findsAll p.segments)) :=
  query_of_isLegible h.legible

/-- What lies at a legible place is the only value that the query for its written form finds. -/
theorem query_of_get? (h : p.IsLegible) (hv : c.get? p = some v) : c.query p.display = .ok [v] := by
  obtain ⟨tree, hroot, htree⟩ := Option.bind_eq_some_iff.mp hv
  rw [query_of_isLegible h, hroot, Option.toList_some, List.flatMap_singleton, Json.findsAll_of_get? htree]

theorem query_display_all (h : p.IsLegible) : c.query (p.display ++ "[*]") =
    .ok (((c.root? p.root).toList.flatMap (Json.findsAll p.segments)).flatMap Json.parts) := by
  have moves : Move.steps (Lexeme.ofText "[*]".toList) = .ok ([.bracket, .all, .close], []) := by
    rw [show "[*]".toList = '[' :: '*' :: ']' :: [] from rfl, Lexeme.ofText_all, Move.steps_all]
    rfl
  rw [query_display_append h "[*]" rfl (by simp [Text.isBlank]) moves (by decide)]
  cases hroot : c.root? p.root with
  | none => rfl
  | some tree =>
    have values := Node.value_foldl_findsAt p.segments [.whole tree]
    dsimp only
    rw [Walk.run_all]
    refine congrArg Except.ok ((Node.value_flatMap_children _).trans ?_)
    rw [values]
    rfl

/-- What lies at a plain place is what the query for its written form finds. Where nothing lies, it
finds nothing either, unless an index falls on an object; then it finds what the arrays among the
members have there. So what was written is read back. -/
theorem query_display (h : p.IsPlain) :
    (∀ v, c.get? p = some v → c.query p.display = .ok [v]) ∧
      (c.get? p = none → c.query p.display =
        .ok ((c.root? p.root).toList.flatMap (Json.findsAll p.segments))) ∧
      (c.get? p = none → (∀ tree, c.root? p.root = some tree → ¬ tree.IndexesObject p.segments) →
        c.query p.display = .ok []) ∧
      ∀ v change d, c.set p v = .ok (change, d) → d.query p.display = .ok [v] := by
  have reads {e : Context} {v : Json} (hv : e.get? p = some v) : e.query p.display = .ok [v] := by
    obtain ⟨tree, hroot, htree⟩ := Option.bind_eq_some_iff.mp hv
    rw [query_display_eq h, hroot, Option.toList_some, List.flatMap_singleton,
      Json.findsAll_of_get? htree]
  refine ⟨fun v hv => reads hv, fun _ => query_display_eq h, fun hnone ho => ?_,
    fun v change d hset => reads (get?_self_of_set hset)⟩
  rw [query_display_eq h]
  cases hroot : c.root? p.root with
  | none => rfl
  | some tree =>
    rw [get?, hroot, Option.bind_some] at hnone
    rw [Option.toList_some, List.flatMap_singleton, Json.findsAll_of_no_get? hnone (ho tree hroot)]

def boxed : Context := empty.putRoot ctxRoot (.object [("a", .object [("x", .array [.int 1])])])

/-- The first item of the array inside the object. -/
def placed : Path := ⟨"ctx", [.key "a", .key "x", .index 0]⟩

def absent : Path := ⟨"ctx", [.key "b-1", .index 2, .key "c"]⟩

/-- The first item of what is an object. -/
def misplaced : Path := ⟨"ctx", [.key "a", .index 0]⟩

/-- What lies at a place is found, nothing where nothing lies, and there too what has been written.
-/
theorem boxed_query_display :
    boxed.query placed.display = .ok [.int 1] ∧ boxed.query absent.display = .ok [] ∧
      ∃ d, boxed.set absent (.int 2) = .ok (.added, d) ∧ d.query absent.display = .ok [.int 2] := by
  have hplaced : placed.IsPlain := by decide +kernel
  have habsent : absent.IsPlain := by decide +kernel
  refine ⟨(query_display hplaced).1 _ rfl, (query_display habsent).2.2.1 rfl ?_, _, rfl,
    (query_display habsent).2.2.2 _ _ _ rfl⟩
  rintro tree htree ⟨before, position, after, members, hsegments, hobject⟩
  cases htree
  cases before with
  | nil => cases hsegments
  | cons s before =>
    obtain rfl : Segment.key "b-1" = s := (List.cons.inj hsegments).1
    cases hobject

/-- The query for an item of an object finds what the arrays among its members have there, although
nothing lies at the place. -/
theorem query_item_of_object :
    misplaced.IsPlain ∧ misplaced.display = "$.ctx.a[0]" ∧ boxed.get? misplaced = none ∧
      boxed.query misplaced.display = .ok [.int 1] := by
  have plain : misplaced.IsPlain := by decide +kernel
  refine ⟨plain, by decide +kernel, rfl, ?_⟩
  rw [query_display_eq plain]
  rfl

end Context

end Assay
