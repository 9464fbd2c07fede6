/- digest: Scanning by the octets of a text, with positions and checked slices, comes to its pieces:
   it ends, and no slice leaves the text or parts a character. -/

import Assay.Proofs.Token.Scanning

set_option autoImplicit false
set_option relaxedAutoImplicit false

namespace Assay.Token

def octets (text : String) : List UInt8 := text.toUTF8.data.toList

/-- The part of a text between two of its octets; nothing where they are out of order or out of the
text, or where a character stands across one of them. -/
def slice? (text : String) (start stop : Nat) : Option String := do
  let p ← text.pos? ⟨start⟩
  let q ← text.pos? ⟨stop⟩
  if h : p ≤ q then some (text.slice p q h).copy else none

def pairAt (text : String) (j : Nat) (inside : j + 1 < (octets text).length) : UInt8 × UInt8 :=
  ((octets text).get ⟨j, Nat.lt_of_succ_lt inside⟩, (octets text).get ⟨j + 1, inside⟩)

/-- The position behind the double brace that closes `depth + 1` open ones, from the octet at `j`
on. -/
def closingAt? (text : String) (depth j : Nat) : Option Nat :=
  if inside : j + 1 < (octets text).length then
    if pairAt text j inside = (123, 123) then closingAt? text (depth + 1) (j + 2)
    else if pairAt text j inside = (125, 125) then
      match depth with
      | 0 => some (j + 2)
      | d + 1 => closingAt? text d (j + 2)
    else closingAt? text depth (j + 1)
  else none
termination_by (octets text).length - j

private theorem lt_of_closingAt? {text : String} {depth j stop : Nat}
    (h : closingAt? text depth j = some stop) : j < stop := by
  fun_induction closingAt? text depth j with
  | case1 depth j inside opened ih =>
    have := ih h
    omega
  | case2 j inside unopened closed =>
    cases h
    omega
  | case3 j inside unopened closed depth ih =>
    have := ih h
    omega
  | case4 depth j inside unopened unclosed ih =>
    have := ih h
    omega
  | case5 => cases h

def literalAt? (text : String) (start stop : Nat) : Option (List Piece) :=
  if start < stop then (slice? text start stop).map fun s => [.literal s.toList] else some []

/-- The pieces of a text from the octet at `i` on, where the octets from `start` on are not in a
piece yet; nothing where a slice fails. -/
def scanAt? (text : String) (start i : Nat) : Option (List Piece) :=
  if inside : i + 1 < (octets text).length then
    if pairAt text i inside = (123, 123) then
      match _found : closingAt? text 0 (i + 2) with
      | none => literalAt? text start (octets text).length
      | some stop => do
        let e ← slice? text (i + 2) (stop - 2)
        if isReference e.toList then
          let front ← literalAt? text start i
          let later ← scanAt? text stop stop
          some (front ++ .token e.toList :: later)
        else scanAt? text start (i + 2)
    else scanAt? text start (i + 1)
  else literalAt? text start (octets text).length
termination_by (octets text).length - i
decreasing_by
  · have := lt_of_closingAt? _found
    omega
  · omega
  · omega

private def encoded (cs : List Char) : List UInt8 := cs.flatMap String.utf8EncodeChar

private theorem octets_eq (text : String) : octets text = encoded text.toList := by
  rw [octets, String.toUTF8_eq_toByteArray, ← String.utf8Encode_toList, List.utf8Encode, encoded,
    List.data_toByteArray]

private theorem encoded_cons (c : Char) (cs : List Char) :
    encoded (c :: cs) = String.utf8EncodeChar c ++ encoded cs :=
  List.flatMap_cons

private theorem encoded_append (front cs : List Char) :
    encoded (front ++ cs) = encoded front ++ encoded cs :=
  List.flatMap_append

private theorem utf8EncodeChar_of_plain {c : Char} {b : UInt8} (plain : b.toNat < 128)
    (member : b ∈ String.utf8EncodeChar c) : c.toNat = b.toNat ∧ String.utf8EncodeChar c = [b] := by
  simp only [String.utf8EncodeChar] at member ⊢
  by_cases one : c.val.toNat ≤ 127
  · rw [if_pos one] at member ⊢
    rw [List.mem_singleton] at member
    subst member
    rw [UInt8.toNat_ofNat']
    have code : c.toNat = c.val.toNat := rfl
    exact ⟨by omega, rfl⟩
  · exfalso
    rw [if_neg one] at member
    split at member
    · simp only [List.mem_cons, List.not_mem_nil, or_false] at member
      obtain rfl | rfl := member <;> simp only [UInt8.toNat_ofNat'] at plain <;> omega
    · split at member
      · simp only [List.mem_cons, List.not_mem_nil, or_false] at member
        obtain rfl | rfl | rfl := member <;> simp only [UInt8.toNat_ofNat'] at plain <;> omega
      · simp only [List.mem_cons, List.not_mem_nil, or_false] at member
        obtain rfl | rfl | rfl | rfl := member <;> simp only [UInt8.toNat_ofNat'] at plain <;> omega

private def Doubled (text : String) (b : UInt8) (j : Nat) : Prop :=
  (octets text)[j]? = some b ∧ (octets text)[j + 1]? = some b

variable {text : String} {front cs : List Char} {c x : Char} {b : UInt8} {k : Nat}

private theorem head?_encoded (alone : String.utf8EncodeChar x = [b])
    (plain : b.toNat < 128) : (encoded cs).head? = some b ↔ cs.head? = some x := by
  cases cs with
  | nil => simp [encoded]
  | cons c cs =>
    rw [encoded_cons, List.head?_append_of_ne_nil _ String.utf8EncodeChar_ne_nil, List.head?_cons,
      Option.some.injEq]
    constructor
    · intro first
      have member : b ∈ String.utf8EncodeChar c := List.mem_of_head? first
      have same := (utf8EncodeChar_of_plain plain member).1
      have own := (utf8EncodeChar_of_plain plain (alone ▸ List.mem_singleton_self b)).1
      exact Char.toNat_inj.mp (same.trans own.symm)
    · rintro rfl
      rw [alone]
      rfl

private theorem doubled_iff (h : text.toList = front ++ c :: cs)
    (alone : String.utf8EncodeChar x = [b])
    (plain : b.toNat < 128) (within : k < (String.utf8EncodeChar c).length) :
    Doubled text b ((encoded front).length + k) ↔ k = 0 ∧ c = x ∧ cs.head? = some x := by
  have behind (i : Nat) : (octets text)[(encoded front).length + i]? =
      (String.utf8EncodeChar c ++ encoded cs)[i]? := by
    rw [octets_eq, h, encoded_append, encoded_cons, List.getElem?_append_right (Nat.le_add_right _ _),
      Nat.add_sub_cancel_left]
  rw [Doubled, Nat.add_assoc, behind, behind, List.getElem?_append_left within]
  constructor
  · rintro ⟨first, second⟩
    have member := List.mem_of_getElem? first
    obtain ⟨code, single⟩ := utf8EncodeChar_of_plain plain member
    have own := (utf8EncodeChar_of_plain plain (alone ▸ List.mem_singleton_self b)).1
    rw [single] at within second
    obtain rfl : k = 0 := Nat.lt_one_iff.mp within
    rw [List.singleton_append, List.getElem?_cons_succ, ← List.head?_eq_getElem?] at second
    exact ⟨rfl, Char.toNat_inj.mp (code.trans own.symm), (head?_encoded alone plain).mp second⟩
  · rintro ⟨rfl, rfl, next⟩
    have second := (head?_encoded alone plain).mpr next
    rw [List.head?_eq_getElem?] at second
    rw [alone]
    exact ⟨rfl, second⟩

private theorem doubled_of_eq_append (h : text.toList = front ++ x :: x :: cs)
    (alone : String.utf8EncodeChar x = [b]) (plain : b.toNat < 128) :
    Doubled text b (encoded front).length :=
  (doubled_iff h alone plain (by rw [alone]; exact Nat.one_pos)).mpr ⟨rfl, rfl, rfl⟩

private theorem not_doubled (h : text.toList = front ++ c :: cs)
    (alone : String.utf8EncodeChar x = [b])
    (plain : b.toNat < 128) (apart : ∀ rest, c = x → cs = x :: rest → False)
    (within : k < (String.utf8EncodeChar c).length) : ¬ Doubled text b ((encoded front).length + k) := by
  rw [doubled_iff h alone plain within]
  rintro ⟨-, first, next⟩
  obtain ⟨rest, rfl⟩ := List.head?_eq_some_iff.mp next
  exact apart rest first rfl

private theorem eq_of_steps {α : Type} {f : Nat → α} {j n : Nat}
    (same : ∀ k < n, f (j + k) = f (j + k + 1)) :
    f j = f (j + n) := by
  induction n with
  | zero => rfl
  | succ n ih => rw [ih fun k hk => same k (Nat.lt_succ_of_lt hk), same n n.lt_succ_self, Nat.add_assoc]

section

variable {depth j : Nat}

private theorem Doubled.lt (h : Doubled text b j) : j + 1 < (octets text).length :=
  (List.getElem?_eq_some_iff.mp h.2).1

private theorem pairAt_eq_iff (inside : j + 1 < (octets text).length) (b : UInt8) :
    pairAt text j inside = (b, b) ↔ Doubled text b j := by
  rw [pairAt, Prod.mk.injEq, Doubled, List.getElem?_eq_getElem (Nat.lt_of_succ_lt inside),
    List.getElem?_eq_getElem inside, Option.some.injEq, Option.some.injEq]
  rfl

private theorem closingAt?_of_opens (opened : Doubled text 123 j) :
    closingAt? text depth j = closingAt? text (depth + 1) (j + 2) := by
  rw [closingAt?.eq_def text depth j, dif_pos opened.lt,
    if_pos ((pairAt_eq_iff opened.lt 123).mpr opened)]

private theorem closingAt?_of_closes (closed : Doubled text 125 j) : closingAt? text depth j =
    match depth with
    | 0 => some (j + 2)
    | d + 1 => closingAt? text d (j + 2) := by
  have braces := (pairAt_eq_iff closed.lt 125).mpr closed
  rw [closingAt?.eq_def text depth j, dif_pos closed.lt, if_neg (by rw [braces]; decide), if_pos braces]

private theorem closingAt?_succ (unopened : ¬ Doubled text 123 j)
    (unclosed : ¬ Doubled text 125 j) :
    closingAt? text depth j = closingAt? text depth (j + 1) := by
  by_cases inside : j + 1 < (octets text).length
  · rw [← pairAt_eq_iff inside] at unopened unclosed
    rw [closingAt?.eq_def text depth j, dif_pos inside, if_neg unopened, if_neg unclosed]
  · rw [closingAt?.eq_def text depth j, dif_neg inside, closingAt?.eq_def, dif_neg (by omega)]

private theorem closingAt?_add {n : Nat} (unopened : ∀ k < n, ¬ Doubled text 123 (j + k))
    (unclosed : ∀ k < n, ¬ Doubled text 125 (j + k)) :
    closingAt? text depth j = closingAt? text depth (j + n) :=
  eq_of_steps fun k hk => closingAt?_succ (unopened k hk) (unclosed k hk)

end

private theorem length_encoded_append (front cs : List Char) :
    (encoded (front ++ cs)).length = (encoded front).length + (encoded cs).length := by
  rw [encoded_append, List.length_append]

private theorem length_encoded_double (front : List Char) (alone : String.utf8EncodeChar x = [b]) :
    (encoded (front ++ [x, x])).length = (encoded front).length + 2 := by
  rw [length_encoded_append, encoded_cons, encoded_cons, alone]
  rfl

private theorem length_encoded_concat (front : List Char) (c : Char) :
    (encoded (front ++ [c])).length = (encoded front).length + (String.utf8EncodeChar c).length := by
  have nothing : encoded [] = [] := rfl
  rw [length_encoded_append, encoded_cons, nothing, List.append_nil]

private theorem closingAt?_encoded (front : List Char) (depth : Nat) (cs : List Char)
    (h : text.toList = front ++ cs) :
    closingAt? text depth (encoded front).length =
      (closing? depth cs).map fun r => (encoded (front ++ r.1)).length + 2 := by
  fun_induction closing? depth cs generalizing front with
  | case1 depth rest ih =>
    have later := ih (front ++ ['{', '{']) (by simpa using h)
    rw [length_encoded_double front rfl] at later
    rw [closingAt?_of_opens (doubled_of_eq_append h rfl (by decide)), Option.map_map]
    simpa [Function.comp_def] using later
  | case2 rest =>
    rw [closingAt?_of_closes (doubled_of_eq_append h rfl (by decide))]
    simp
  | case3 rest depth ih =>
    have later := ih (front ++ ['}', '}']) (by simpa using h)
    rw [length_encoded_double front rfl] at later
    rw [closingAt?_of_closes (doubled_of_eq_append h rfl (by decide)), Option.map_map]
    simpa [Function.comp_def] using later
  | case4 depth c rest unopened unclosed ih =>
    have later := ih (front ++ [c]) (by simpa using h)
    rw [length_encoded_concat] at later
    rw [closingAt?_add (fun k hk => not_doubled h rfl (by decide) unopened hk)
      (fun k hk => not_doubled h rfl (by decide) unclosed hk), Option.map_map]
    simpa [Function.comp_def] using later
  | case5 depth =>
    have stop : (octets text).length = (encoded front).length := by rw [octets_eq, h, List.append_nil]
    rw [closingAt?.eq_def, dif_neg (by omega)]
    rfl

private theorem length_encoded (cs : List Char) :
    (encoded cs).length = (String.ofList cs).utf8ByteSize := by
  have whole := octets_eq (String.ofList cs)
  rw [String.toList_ofList] at whole
  rw [← whole]
  rfl

private theorem exists_pos? {text front back : String} (h : text = front ++ back) :
    ∃ p : text.Pos, text.pos? ⟨front.utf8ByteSize⟩ = some p ∧ p.Splits front back := by
  have valid : (String.Pos.Raw.mk front.utf8ByteSize).IsValidForSlice text.toSlice :=
    String.Pos.Raw.isValidForSlice_iff_exists_append.mpr ⟨front, back, by simpa using h, rfl⟩
  have found : text.toSlice.pos? ⟨front.utf8ByteSize⟩ = some (text.toSlice.pos _ valid) :=
    dif_pos (String.Pos.Raw.isValidForSlice_eq_true_iff.mpr valid)
  exact ⟨_, by rw [String.pos?, found, Option.map_some], h, rfl⟩

private theorem slice?_of_eq_append {back : List Char} (h : text.toList = front ++ cs ++ back) :
    slice? text (encoded front).length (encoded (front ++ cs)).length = some (String.ofList cs) := by
  have whole : text = String.ofList front ++ (String.ofList cs ++ String.ofList back) := by
    rw [← String.ofList_append, ← String.ofList_append, ← List.append_assoc, ← h, String.ofList_toList]
  have whole' : text = String.ofList front ++ String.ofList cs ++ String.ofList back := by
    rw [whole, String.append_assoc]
  obtain ⟨p, hp, before⟩ := exists_pos? whole
  obtain ⟨q, hq, behind⟩ := exists_pos? whole'
  obtain ⟨le, copied⟩ := String.copy_slice_eq_iff_splits.mpr ⟨_, _, before, behind⟩
  rw [← String.ofList_append] at hq
  rw [slice?, length_encoded, length_encoded, hp, hq]
  simp [le, copied]

private theorem literalAt?_of_eq_append {backwards back : List Char}
    (h : text.toList = front ++ backwards.reverse ++ back) :
    literalAt? text (encoded front).length (encoded (front ++ backwards.reverse)).length =
      some (withLiteral backwards []) := by
  cases backwards with
  | nil => rw [List.reverse_nil, List.append_nil, literalAt?, if_neg (Nat.lt_irrefl _)]; rfl
  | cons c rest =>
    have later : (encoded front).length < (encoded (front ++ (c :: rest).reverse)).length := by
      have one := List.length_pos_iff.mpr (String.utf8EncodeChar_ne_nil (c := c))
      rw [List.reverse_cons, ← List.append_assoc, length_encoded_concat, length_encoded_append]
      omega
    rw [literalAt?, if_pos later, slice?_of_eq_append h, Option.map_some, String.toList_ofList]
    rfl

section

variable {start i : Nat}

private theorem scanAt?_of_unclosed (opened : Doubled text 123 i)
    (unclosed : closingAt? text 0 (i + 2) = none) :
    scanAt? text start i = literalAt? text start (octets text).length := by
  rw [scanAt?.eq_def text start i, dif_pos opened.lt,
    if_pos ((pairAt_eq_iff opened.lt 123).mpr opened)]
  split
  · rfl
  · rename_i found
    rw [unclosed] at found
    cases found

private theorem scanAt?_of_closed {stop : Nat} {e : String} (opened : Doubled text 123 i)
    (closed : closingAt? text 0 (i + 2) = some stop) (sliced : slice? text (i + 2) (stop - 2) = some e) :
    scanAt? text start i =
      if isReference e.toList then
        (literalAt? text start i).bind fun front =>
          (scanAt? text stop stop).bind fun later => some (front ++ .token e.toList :: later)
      else scanAt? text start (i + 2) := by
  rw [scanAt?.eq_def text start i, dif_pos opened.lt,
    if_pos ((pairAt_eq_iff opened.lt 123).mpr opened)]
  split
  · rename_i found
    rw [closed] at found
    cases found
  · rename_i found
    rw [closed] at found
    cases found
    rw [sliced]
    rfl

private theorem scanAt?_succ (unopened : ¬ Doubled text 123 i) :
    scanAt? text start i = scanAt? text start (i + 1) := by
  by_cases inside : i + 1 < (octets text).length
  · rw [← pairAt_eq_iff inside] at unopened
    rw [scanAt?.eq_def text start i, dif_pos inside, if_neg unopened]
  · rw [scanAt?.eq_def text start i, dif_neg inside, scanAt?.eq_def, dif_neg (by omega)]

private theorem scanAt?_add {n : Nat} (unopened : ∀ k < n, ¬ Doubled text 123 (i + k)) :
    scanAt? text start i = scanAt? text start (i + n) :=
  eq_of_steps fun k hk => scanAt?_succ (unopened k hk)

end

private theorem withLiteral_append (backwards : List Char) (ps : List Piece) :
    withLiteral backwards [] ++ ps = withLiteral backwards ps := by
  cases backwards <;> rfl

private theorem scanAt?_end {backwards : List Char} (h : text.toList = front ++ backwards.reverse) :
    scanAt? text (encoded front).length (encoded (front ++ backwards.reverse)).length =
      some (withLiteral backwards []) := by
  have size : (octets text).length = (encoded (front ++ backwards.reverse)).length := by
    rw [octets_eq, h]
  rw [scanAt?.eq_def, dif_neg (by omega), size]
  exact literalAt?_of_eq_append (by rw [h, List.append_nil])

private theorem closingAt?_of_eq_append {rest : List Char}
    (h : text.toList = front ++ '{' :: '{' :: rest) :
    closingAt? text 0 ((encoded front).length + 2) =
      (closing? 0 rest).map fun r => (encoded (front ++ '{' :: '{' :: r.1)).length + 2 := by
  have found := closingAt?_encoded (front ++ ['{', '{']) 0 rest (by simpa using h)
  rw [length_encoded_double front rfl] at found
  simpa using found

private theorem scanAt?_expression {rest e after : List Char}
    (h : text.toList = front ++ '{' :: '{' :: rest) (found : closing? 0 rest = some (e, after)) :
    closingAt? text 0 ((encoded front).length + 2) =
        some (encoded (front ++ ('{' :: '{' :: e ++ ['}', '}']))).length ∧
      slice? text ((encoded front).length + 2)
        ((encoded (front ++ ('{' :: '{' :: e ++ ['}', '}']))).length - 2) = some (String.ofList e) := by
  have stop : (encoded (front ++ ('{' :: '{' :: e ++ ['}', '}']))).length =
      (encoded (front ++ ['{', '{'] ++ e)).length + 2 := by
    rw [← length_encoded_double (x := '}') _ rfl]
    simp
  constructor
  · rw [closingAt?_of_eq_append h, found, Option.map_some, stop]
    simp
  · have whole : text.toList = front ++ ['{', '{'] ++ e ++ '}' :: '}' :: after := by
      rw [h, closing?_eq_append found]
      simp
    rw [stop, Nat.add_sub_cancel, ← length_encoded_double (x := '{') front rfl]
    exact slice?_of_eq_append whole

private theorem scanAt?_encoded (front backwards cs : List Char)
    (h : text.toList = front ++ backwards.reverse ++ cs) :
    scanAt? text (encoded front).length (encoded (front ++ backwards.reverse)).length =
      some (pieces backwards cs) := by
  fun_induction pieces backwards cs generalizing front with
  | case1 backwards =>
    rw [List.append_nil] at h
    exact scanAt?_end h
  | case2 backwards c =>
    have apart : ∀ rest, c = '{' → [] = '{' :: rest → False := by
      intro rest _ next
      cases next
    have whole : text.toList = front ++ (c :: backwards).reverse := by simpa using h
    have later := scanAt?_end whole
    rw [List.reverse_cons, ← List.append_assoc, length_encoded_concat] at later
    -- No octet of the last character is doubled, so the scan runs off the end.
    rw [scanAt?_add fun k hk => not_doubled h rfl (by decide) apart hk]
    exact later
  | case3 backwards c d rest opened unclosed =>
    obtain ⟨rfl, rfl⟩ := opened
    have doubled := doubled_of_eq_append h rfl (by decide)
    have missing : closingAt? text 0 ((encoded (front ++ backwards.reverse)).length + 2) = none := by
      rw [closingAt?_of_eq_append h, unclosed, Option.map_none]
    have all : text.toList = front ++ (rest.reverse ++ '{' :: '{' :: backwards).reverse := by simpa using h
    rw [scanAt?_of_unclosed doubled missing, octets_eq, all]
    exact literalAt?_of_eq_append (by rw [all, List.append_nil])
  | case4 backwards c d rest opened e after found reference ih =>
    obtain ⟨rfl, rfl⟩ := opened
    have doubled := doubled_of_eq_append h rfl (by decide)
    obtain ⟨closed, sliced⟩ := scanAt?_expression h found
    have later := ih (front ++ backwards.reverse ++ ('{' :: '{' :: e ++ ['}', '}']))
      (by rw [h, closing?_eq_append found]; simp)
    rw [List.reverse_nil, List.append_nil] at later
    rw [scanAt?_of_closed doubled closed sliced, String.toList_ofList, if_pos reference,
      literalAt?_of_eq_append h, later, Option.bind_some, Option.bind_some, withLiteral_append]
  | case5 backwards c d rest opened e after found reference ih =>
    obtain ⟨rfl, rfl⟩ := opened
    have doubled := doubled_of_eq_append h rfl (by decide)
    obtain ⟨closed, sliced⟩ := scanAt?_expression h found
    have later := ih front (by simpa using h)
    rw [List.reverse_cons, List.reverse_cons, List.append_assoc, List.singleton_append, ← List.append_assoc,
      length_encoded_double _ rfl] at later
    rw [scanAt?_of_closed doubled closed sliced, String.toList_ofList, if_neg reference]
    exact later
  | case6 backwards c d rest closed ih =>
    have apart : ∀ rest', c = '{' → d :: rest = '{' :: rest' → False := by
      rintro rest' rfl next
      cases next
      exact closed ⟨rfl, rfl⟩
    have split : text.toList = front ++ (c :: backwards).reverse ++ d :: rest := by simpa using h
    have later := ih front split
    rw [List.reverse_cons, ← List.append_assoc, length_encoded_concat] at later
    rw [scanAt?_add fun k hk => not_doubled h rfl (by decide) apart hk]
    exact later

/-- A scan loses nothing: the pieces, a token between its double braces, give the text. No two
literals stand side by side and none is empty. Each token refers to the namespace, and the double
braces in it are balanced. The scan by octets ends, and no slice that it takes fails, whatever
braces the text holds. -/
theorem scan_loses_nothing (text : String) :
    (scan text).flatMap Piece.written = text.toList ∧
    (scan text).IsChain (fun a b => a.isToken = true ∨ b.isToken = true) ∧
    .literal [] ∉ scan text ∧
    (∀ e, .token e ∈ scan text → (Text.trimStartChars e).head? = some '$' ∧ Balanced e) ∧
    scanAt? text 0 0 = some (scan text) := by
  have divides : Divides (scan text) text.toList := divides_pieces [] text.toList
  refine ⟨divides.written, divides.apart, divides.filled, fun e member => ?_, ?_⟩
  · obtain ⟨reference, balanced⟩ := divides.tokens e member
    exact ⟨beq_iff_eq.mp reference, balanced⟩
  · exact scanAt?_encoded [] [] text.toList rfl

end Assay.Token
