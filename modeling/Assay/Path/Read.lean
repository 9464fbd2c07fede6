/- digest: Reading places from their written forms: `$.ctx.user.id`, `$['globals']['x']`,
   `globals.items[0]` and bare names, which lie below the default root. -/

import Assay.Path.Basic
import Assay.Text.Blank
import Assay.Text.Search

set_option autoImplicit false
set_option relaxedAutoImplicit false

namespace Assay.Path

def indexLimit : Nat := Nat.pow 2 64 - 1

/-- A count in digits, with an optional plus sign. -/
def readIndex (cs : List Char) : Option Nat :=
  let ds := match cs with
    | '+' :: r => r
    | r => r
  if ds ≠ [] ∧ ds.all Text.isDigit then
    let n := Text.digitsValue ds
    if n ≤ indexLimit then some n else none
  else none

def unquote? (quote : Char) : List Char → Option (List Char)
  | c :: rest =>
    if c = quote then
      match rest.reverse with
      | d :: inner => if d = quote then some inner.reverse else none
      | [] => none
    else none
  | [] => none

/-- The step that stands between brackets: a quoted name or an index. -/
def readBracket (inner : List Char) : Option Segment :=
  let inner := Text.trimChars inner
  match (unquote? '\'' inner).or (unquote? '"' inner) with
  | some name => some (.key (String.ofList name))
  | none => (readIndex inner).map .index

/-- Characters that a name without brackets may hold. -/
def isOpen (c : Char) : Bool := c ≠ '.' && c ≠ '['

private theorem length_dropWhile_le (p : Char → Bool) (cs : List Char) :
    (cs.dropWhile p).length ≤ cs.length :=
  (List.dropWhile_sublist p).length_le

/-- The steps in a text. A point needs a step before it and something other than a point after it;
`first` says that no step has been read. -/
def readSegments (first : Bool) (cs : List Char) : Option (List Segment) :=
  match cs with
  | [] => some []
  | c :: rest =>
    if c = '.' then
      if first then none
      else match rest with
        | [] => none
        | d :: more => if d = '.' then none else readSegments false (d :: more)
    else if c = '[' then
      match _h : rest.dropWhile (· ≠ ']') with
      | [] => none
      | _ :: after =>
        match readBracket (rest.takeWhile (· ≠ ']')) with
        | none => none
        | some s => (readSegments false after).map (s :: ·)
    else
      let name := Text.trimChars (c :: rest.takeWhile isOpen)
      (readSegments false (rest.dropWhile isOpen)).map (.key (String.ofList name) :: ·)
termination_by cs.length
decreasing_by
  · simp
  · have := length_dropWhile_le (· ≠ ']') rest
    simp only [_h, List.length_cons] at this ⊢
    omega
  · have := length_dropWhile_le isOpen rest
    simp only [List.length_cons]
    omega

/-- The place that its steps name: the first name is the root where the text says so with `$` or the
name is that of a known root; else the default root stands before it. -/
def ofSegments (explicitRoot : Bool) : List Segment → Option Path
  | .key first :: rest =>
    if explicitRoot || knownRoots.contains first then some ⟨first, rest⟩
    else some ⟨defaultRoot, .key first :: rest⟩
  | _ => none

def read? (text : String) : Option Path :=
  match Text.trimChars text.toList with
  | '$' :: '.' :: body => (readSegments true body).bind (ofSegments true)
  | '$' :: body => (readSegments true body).bind (ofSegments true)
  | body => (readSegments true body).bind (ofSegments false)

end Assay.Path
