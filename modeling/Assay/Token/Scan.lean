/- digest: Splitting text into literal pieces and tokens in double braces, which are matched by
   depth. -/

import Assay.Text.Blank
import Assay.Text.Search

set_option autoImplicit false
set_option relaxedAutoImplicit false

namespace Assay.Token

/-- A part of a text: literal characters, or the expression between double braces. -/
inductive Piece
  | literal (chars : List Char)
  | token (expression : List Char)
  deriving DecidableEq

/-- The characters before the double brace that closes `depth + 1` open ones, and those after it. -/
def closing? (depth : Nat) : List Char → Option (List Char × List Char)
  | '{' :: '{' :: rest => (closing? (depth + 1) rest).map fun r => ('{' :: '{' :: r.1, r.2)
  | '}' :: '}' :: rest =>
    match depth with
    | 0 => some ([], rest)
    | d + 1 => (closing? d rest).map fun r => ('}' :: '}' :: r.1, r.2)
  | c :: rest => (closing? depth rest).map fun r => (c :: r.1, r.2)
  | [] => none

private theorem closing?_length {depth : Nat} {cs inner rest : List Char}
    (h : closing? depth cs = some (inner, rest)) : rest.length + 2 ≤ cs.length := by
  fun_induction closing? depth cs generalizing inner rest with
  | case1 depth tail ih =>
    obtain ⟨r, hr, heq⟩ := Option.map_eq_some_iff.1 h
    cases heq
    have := ih hr
    simp only [List.length_cons]
    omega
  | case2 tail =>
    cases h
    simp
  | case3 tail d ih =>
    obtain ⟨r, hr, heq⟩ := Option.map_eq_some_iff.1 h
    cases heq
    have := ih hr
    simp only [List.length_cons]
    omega
  | case4 depth c tail _ _ ih =>
    obtain ⟨r, hr, heq⟩ := Option.map_eq_some_iff.1 h
    cases heq
    have := ih hr
    simp only [List.length_cons]
    omega
  | case5 => simp at h

/-- Whether an expression refers to the namespace: after blanks it begins with `$`. -/
def isReference (expression : List Char) : Bool :=
  (Text.trimStartChars expression).head? == some '$'

/-- A piece of literal characters, which run backwards, before other pieces. -/
def withLiteral (backwards : List Char) (pieces : List Piece) : List Piece :=
  match backwards with
  | [] => pieces
  | _ => .literal backwards.reverse :: pieces

/-- The pieces of a text after literal characters, which run backwards. Where a double brace is not
closed, the rest is literal; an expression that is no reference is literal too. -/
def pieces (backwards : List Char) (cs : List Char) : List Piece :=
  match cs with
  | [] => withLiteral backwards []
  | [c] => withLiteral (c :: backwards) []
  | c :: d :: rest =>
    if c = '{' ∧ d = '{' then
      match _h : closing? 0 rest with
      | none => withLiteral (rest.reverse ++ d :: c :: backwards) []
      | some (expression, after) =>
        if isReference expression then
          withLiteral backwards (.token expression :: pieces [] after)
        else pieces (d :: c :: backwards) rest
    else pieces (c :: backwards) (d :: rest)
termination_by cs.length
decreasing_by
  · have := closing?_length _h
    simp only [List.length_cons]
    omega
  · simp only [List.length_cons]
    omega
  · simp

def scan (text : String) : List Piece := pieces [] text.toList

def Piece.isToken : Piece → Bool
  | .token _ => true
  | .literal _ => false

def hasTokens (text : String) : Bool := (scan text).any Piece.isToken

def variableName? (text : String) : Option String :=
  match text.toList with
  | '$' :: '{' :: rest =>
    match rest.reverse with
    | '}' :: name =>
      if name.isEmpty || name.any (fun c => c == '{' || c == '}' || c == '$') then none
      else some (String.ofList name.reverse)
    | _ => none
  | _ => none

end Assay.Token
