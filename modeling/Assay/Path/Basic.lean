/- digest: Places in the variable namespace: a root and the steps below it, with their display. -/

import Assay.Text.Letter

set_option autoImplicit false
set_option relaxedAutoImplicit false

namespace Assay

/-- One step below a root: a member of an object or an item of an array. -/
inductive Segment
  | key (name : String)
  | index (position : Nat)
  deriving DecidableEq, Inhabited

/-- A place that can be written to. -/
structure Path where
  root : String
  segments : List Segment
  deriving DecidableEq, Inhabited

namespace Segment

/-- Plain names stand after a point, all others in quotes between brackets. -/
def display : Segment → String
  | .key name => if Text.isPlainName name then "." ++ name else "['" ++ name ++ "']"
  | .index position => "[" ++ toString position ++ "]"

/-- Whether the step goes to an item of an array. -/
def isIndex : Segment → Bool
  | .index _ => true
  | .key _ => false

def exceeds (bound : Nat) : Segment → Bool
  | .index position => bound < position
  | .key _ => false

end Segment

namespace Path

def display (p : Path) : String :=
  "$." ++ p.root ++ String.join (p.segments.map Segment.display)

/-- A member directly below a root. -/
def child (root key : String) : Path := ⟨root, [.key key]⟩

def defaultRoot : String := "ctx"

def knownRoots : List String := ["env", "globals", "ctx", "case", "this"]

end Path

end Assay
