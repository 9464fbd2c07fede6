/- digest: The written forms of JSON values: compact, indented, and the text that stands for a value
   inside other text. -/

import Assay.Json.Basic
import Assay.Number.Render
import Assay.Text.Quoted
import Assay.Text.Search

set_option autoImplicit false
set_option relaxedAutoImplicit false

namespace Assay

/-- Whole numbers in digits, others in the document form. -/
def Number.render : Number → String
  | .int i => toString i
  | .float d => d.render

namespace Json

/-- The words for the two truth values. -/
def boolText (b : Bool) : String := if b then "true" else "false"

mutual

/-- The compact form, without blanks. -/
def render : Json → String
  | .null => "null"
  | .bool b => boolText b
  | .number n => n.render
  | .string s => Text.quoteJson s
  | .array items => "[" ++ Text.join "," (renderItems items) ++ "]"
  | .object members => "\x7b" ++ Text.join "," (renderMembers members) ++ "\x7d"

def renderItems : List Json → List String
  | [] => []
  | v :: rest => render v :: renderItems rest

def renderMembers : List (String × Json) → List String
  | [] => []
  | (k, v) :: rest => (Text.quoteJson k ++ ":" ++ render v) :: renderMembers rest

end

/-- A line break and two blanks for each level. -/
def newline (level : Nat) : String :=
  "\n" ++ String.ofList (List.replicate (2 * level) ' ')

/-- Parts between brackets, one to a line; empty brackets stay together. -/
def bracket (level : Nat) (left right : String) (parts : List String) : String :=
  if parts.isEmpty then left ++ right
  else left ++ newline (level + 1) ++ Text.join ("," ++ newline (level + 1)) parts ++
    newline level ++ right

mutual

/-- The indented form at a level of nesting. -/
def renderAt (level : Nat) : Json → String
  | .array items => bracket level "[" "]" (renderItemsAt (level + 1) items)
  | .object members => bracket level "\x7b" "\x7d" (renderMembersAt (level + 1) members)
  | .null => "null"
  | .bool b => boolText b
  | .number n => n.render
  | .string s => Text.quoteJson s

def renderItemsAt (level : Nat) : List Json → List String
  | [] => []
  | v :: rest => renderAt level v :: renderItemsAt level rest

def renderMembersAt (level : Nat) : List (String × Json) → List String
  | [] => []
  | (k, v) :: rest => (Text.quoteJson k ++ ": " ++ renderAt level v) :: renderMembersAt level rest

end

def renderIndented (v : Json) : String := renderAt 0 v

/-- The text that stands for a value inside other text: nothing for null, a string as it is, and
the compact form for the rest. -/
def plainText : Json → String
  | .null => ""
  | .string s => s
  | v => v.render

end Json

end Assay
