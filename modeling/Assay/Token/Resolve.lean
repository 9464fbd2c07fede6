/- digest: Replacing tokens by the values that they refer to, in texts and in whole values, down to
   a fixed number of levels. Along with a value goes the list of lines to log. A selector with a
   move that is refused leaves no value at all. -/

import Assay.Context.Query
import Assay.Json.Render
import Assay.Token.Scan

set_option autoImplicit false
set_option relaxedAutoImplicit false

namespace Assay

/-- What tokens are resolved against: the variable namespace and the variables of the process. -/
structure Scope where
  context : Context
  processVariable : String → Option String

namespace Token

/-- Levels of expansion before the text is left as it is. -/
def maxDepth : Nat := 10

/-- A result and the lines logged on the way to it. -/
structure Logged (α : Type) where
  value : α
  lines : List String
  deriving Inhabited

/-- A result with its lines, or the refused move of a selector on the way to it. -/
abbrev Resolution (α : Type) := Except Selector.Refusal (Logged α)

namespace Resolution

variable {α β : Type}

def silent (a : α) : Resolution α := .ok ⟨a, []⟩

def onValue (f : α → β) (r : Resolution α) : Resolution β :=
  r.map fun l => ⟨f l.value, l.lines⟩

/-- Goes on with the value of a result and logs the lines of both. -/
def andThen (r : Resolution α) (go : α → Resolution β) : Resolution β :=
  match r with
  | .error e => .error e
  | .ok first =>
    match go first.value with
    | .error e => .error e
    | .ok second => .ok ⟨second.value, first.lines ++ second.lines⟩

end Resolution

def tooDeepLine (text : String) : String :=
  "Token nesting exceeded " ++ toString maxDepth ++ " levels, stopped expanding '" ++ text ++ "'"

def notFoundLine (path : String) : String := "Path not found: " ++ path

/-- The value that a path refers to: the only match, all of several, or empty text with a line. -/
def lookup (context : Context) (path : String) : Resolution Json :=
  match context.query path with
  | .ok [] => .ok ⟨.string "", [notFoundLine path]⟩
  | .ok [v] => .silent v
  | .ok vs => .silent (.array vs)
  | .error (.selection _ (.refused r)) => .error r
  | .error e => .ok ⟨.string "", [e.message]⟩

/-- The expression of a text that is one token with blanks around it. -/
def onlyToken? : List Piece → Option (List Char)
  | [.token e] => some e
  | [.literal a, .token e] => if a.all Text.isBlank then some e else none
  | [.token e, .literal b] => if b.all Text.isBlank then some e else none
  | [.literal a, .token e, .literal b] =>
    if a.all Text.isBlank && b.all Text.isBlank then some e else none
  | _ => none

/-- Whether a text is replaced when a value is expanded. -/
def isLive (text : String) : Bool := hasTokens text || (variableName? text).isSome

mutual

/-- Expands every live text in a value, with `resolve` for one text. -/
def expandWith (resolve : String → Resolution Json) : Json → Resolution Json
  | .string s => if isLive s then resolve s else .silent (.string s)
  | .array items => (expandItems resolve items).onValue .array
  | .object members => (expandMembers resolve members).onValue .object
  | v => .silent v

def expandItems (resolve : String → Resolution Json) : List Json → Resolution (List Json)
  | [] => .silent []
  | v :: rest => (expandWith resolve v).andThen fun first =>
    (expandItems resolve rest).onValue (first :: ·)

def expandMembers (resolve : String → Resolution Json) :
    List (String × Json) → Resolution (List (String × Json))
  | [] => .silent []
  | (k, v) :: rest => (expandWith resolve v).andThen fun first =>
    (expandMembers resolve rest).onValue ((k, first) :: ·)

end

/-- The value of an expression, with `resolve` for the tokens inside it. -/
def evaluateWith (context : Context) (resolve : String → Resolution Json) (expression : String) :
    Resolution Json :=
  if hasTokens expression then
    (resolve expression).andThen fun inner => lookup context inner.plainText
  else lookup context (Text.trim expression)

/-- The text of pieces with the values of their tokens in place. -/
def splice (evaluate : String → Resolution Json) : List Piece → Resolution String
  | [] => .silent ""
  | .literal cs :: rest => (splice evaluate rest).onValue (String.ofList cs ++ ·)
  | .token e :: rest => (evaluate (String.ofList e)).andThen fun first =>
    (splice evaluate rest).onValue (first.plainText ++ ·)

/-- Resolves a text when `levels` more levels of expansion are allowed. -/
def resolveWithin (scope : Scope) : Nat → String → Resolution Json
  | levels, text =>
    match variableName? text with
    | some name => .silent (.string ((scope.processVariable name).getD text))
    | none =>
      let parts := scan text
      if !parts.any Piece.isToken then .silent (.string text)
      else
        match levels with
        | 0 => .ok ⟨.string text, [tooDeepLine text]⟩
        | levels + 1 =>
          let deeper := resolveWithin scope levels
          let evaluate := evaluateWith scope.context deeper
          match onlyToken? parts with
          | some e => (evaluate (String.ofList e)).andThen (expandWith deeper)
          | none => (splice evaluate parts).andThen fun text =>
            if hasTokens text then deeper text else .silent (.string text)

def resolve (scope : Scope) (text : String) : Resolution Json := resolveWithin scope maxDepth text

def resolveText (scope : Scope) (text : String) : Resolution String :=
  (resolve scope text).onValue Json.plainText

/-- Resolves every text in a value and keeps its shape. -/
def resolveValue (scope : Scope) (value : Json) : Resolution Json :=
  expandWith (resolve scope) value

end Token

end Assay
