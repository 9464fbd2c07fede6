/- digest: The tree of a document: scalars, sequences, mappings, and aliases of other parts. -/

import Assay.Yaml.Lexer

set_option autoImplicit false
set_option relaxedAutoImplicit false

namespace Assay.Yaml

/-- A part of a document. -/
inductive Node
  | scalar (tag : Option String) (text : String) (style : Style)
  | sequence (tag : Option String) (items : List Node)
  | mapping (tag : Option String) (entries : List (Node × Node))
  | alias (target : Node)
  /-- An alias of a part that it lies in. -/
  | cycle
  deriving Inhabited

namespace Node

def nothing : Node := .scalar none "" .plain

mutual

/-- The number of marks that a part is made of: two for each collection, one for all else. -/
def marks : Node → Nat
  | .scalar _ _ _ => 1
  | .sequence _ items => 2 + marksOf items
  | .mapping _ entries => 2 + marksOfEntries entries
  | .alias _ => 1
  | .cycle => 1

def marksOf : List Node → Nat
  | [] => 0
  | n :: rest => marks n + marksOf rest

def marksOfEntries : List (Node × Node) → Nat
  | [] => 0
  | (k, v) :: rest => marks k + marks v + marksOfEntries rest

end

/-- What the names of parts stand for; none while the part is not complete. -/
abbrev Anchors := List (String × Option Node)

/-- The tokens that are left, and the named parts so far. -/
structure Rest where
  tokens : List Token
  anchors : Anchors
  /-- The handles of tags and what they stand for. -/
  handles : List (String × String)

abbrev Tree (α : Type) := StateT Rest (Except YamlError) α

namespace Tree

/-- The token that comes next; none at the end. -/
def peek : Tree (Option Token) := do return (← get).tokens.head?

def skip : Tree Unit := modify fun s => { s with tokens := s.tokens.tail }

def isNext (t : Token) : Tree Bool := do return (← peek) == some t

def isAny (ts : List Token) : Tree Bool := do
  match ← peek with
  | some t => return ts.contains t
  | none => return false

/-- Passes over a token that has to come next. -/
def need (t : Token) : Tree Unit := do
  if ← isNext t then skip else throw .contentExpected

def setAnchor (name : String) (n : Option Node) : Tree Unit :=
  modify fun s => { s with anchors := (name, n) :: s.anchors }

def find (name : String) : Tree Node := do
  match (← get).anchors.lookup name with
  | some (some n) => return .alias n
  | some none => return .cycle
  | none => throw .unknownAnchor

def resolveTag (handle suffix : String) : Tree String := do
  if handle.isEmpty then return suffix
  else match (← get).handles.lookup handle with
    | some text => return text ++ suffix
    | none => throw .badTag

/-- The name and the tag before a part, in any order. -/
def properties : Tree (Option String × Option String) := do
  match ← peek with
  | some (.anchor a) =>
    skip
    match ← peek with
    | some (.tag h s) =>
      skip
      return (some a, some (← resolveTag h s))
    | _ => return (some a, none)
  | some (.tag h s) =>
    skip
    let tag ← resolveTag h s
    match ← peek with
    | some (.anchor a) =>
      skip
      return (some a, some tag)
    | _ => return (none, some tag)
  | _ => return (none, none)

mutual

/-- Reads a part. Blocks may stand only where `block` allows them, and a sequence without columns of
its own only where `flat` does. -/
def node : Nat → Bool → Bool → Tree Node
  | 0, _, _ => throw .tooDeep
  | fuel + 1, block, flat => do
    match ← peek with
    | some (.alias name) =>
      skip
      find name
    | _ =>
      let (anchor, tag) ← properties
      match anchor with
      | some a => setAnchor a none
      | none => pure ()
      let n ← content fuel block flat (anchor.isSome || tag.isSome) tag
      match anchor with
      | some a => setAnchor a (some n)
      | none => pure ()
      return n

def content : Nat → Bool → Bool → Bool → Option String → Tree Node
  | 0, _, _, _, _ => throw .tooDeep
  | fuel + 1, block, flat, named, tag => do
    match ← peek with
    | some .dash =>
      if flat then return .sequence tag (← flatItems fuel)
      else if named then return .scalar tag "" .plain
      else throw .contentExpected
    | some (.scalar text style) =>
      skip
      return .scalar tag text style
    | some .leftBracket =>
      skip
      return .sequence tag (← flowItems fuel true)
    | some .leftBrace =>
      skip
      return .mapping tag (← flowEntries fuel true)
    | some .sequenceStart =>
      if block then
        skip
        return .sequence tag (← blockItems fuel)
      else if named then return .scalar tag "" .plain
      else throw .contentExpected
    | some .mappingStart =>
      if block then
        skip
        return .mapping tag (← blockEntries fuel)
      else if named then return .scalar tag "" .plain
      else throw .contentExpected
    | _ => if named then return .scalar tag "" .plain else throw .contentExpected

def blockItems : Nat → Tree (List Node)
  | 0 => throw .tooDeep
  | fuel + 1 => do
    if ← isNext .dash then
      skip
      let n ← if ← isAny [.dash, .blockEnd] then pure nothing else node fuel true false
      return n :: (← blockItems fuel)
    else
      need .blockEnd
      return []

def flatItems : Nat → Tree (List Node)
  | 0 => throw .tooDeep
  | fuel + 1 => do
    if ← isNext .dash then
      skip
      let n ← if ← isAny [.dash, .key, .value, .blockEnd] then pure nothing else node fuel true false
      return n :: (← flatItems fuel)
    else return []

def blockEntries : Nat → Tree (List (Node × Node))
  | 0 => throw .tooDeep
  | fuel + 1 => do
    if ← isNext .key then
      skip
      let k ← if ← isAny [.key, .value, .blockEnd] then pure nothing else node fuel true true
      let v ← if ← isNext .value then do
          skip
          if ← isAny [.key, .value, .blockEnd] then pure nothing else node fuel true true
        else pure nothing
      return (k, v) :: (← blockEntries fuel)
    else
      need .blockEnd
      return []

def pairValue : Nat → Tree Node
  | 0 => throw .tooDeep
  | fuel + 1 => do
    if ← isNext .value then
      skip
      if ← isAny [.comma, .rightBracket] then pure nothing else node fuel false false
    else pure nothing

def flowItems : Nat → Bool → Tree (List Node)
  | 0, _ => throw .tooDeep
  | fuel + 1, first => do
    if ← isNext .rightBracket then
      skip
      return []
    else
      if !first then need .comma
      if ← isNext .rightBracket then
        skip
        return []
      else
        let n ← if ← isNext .key then do
            skip
            let k ← if ← isAny [.value, .comma, .rightBracket] then do
                skip
                pure nothing
              else node fuel false false
            pure (.mapping none [(k, ← pairValue fuel)])
          else node fuel false false
        return n :: (← flowItems fuel false)

def flowEntries : Nat → Bool → Tree (List (Node × Node))
  | 0, _ => throw .tooDeep
  | fuel + 1, first => do
    if ← isNext .rightBrace then
      skip
      return []
    else
      if !first then need .comma
      if ← isNext .rightBrace then
        skip
        return []
      else if ← isNext .key then
        skip
        let k ← if ← isAny [.value, .comma, .rightBrace] then pure nothing else node fuel false false
        let v ← if ← isNext .value then do
            skip
            if ← isAny [.comma, .rightBrace] then pure nothing else node fuel false false
          else pure nothing
        return (k, v) :: (← flowEntries fuel false)
      else
        let k ← node fuel false false
        return (k, nothing) :: (← flowEntries fuel false)

end

/-- Reads the directives of a document: at most one version, which must be known, and handles that
differ from each other. The result says whether there are any. -/
def directives : Nat → Bool → List String → Tree Bool
  | 0, versioned, handles => return versioned || !handles.isEmpty
  | fuel + 1, versioned, handles => do
    match ← peek with
    | some (.version major minor) =>
      if versioned || major != 1 || (minor != 1 && minor != 2) then throw .badDirective
      else
        skip
        directives fuel true handles
    | some (.tagPrefix handle text) =>
      if handles.contains handle then throw .badDirective
      else
        skip
        modify fun s => { s with handles := (handle, text) :: s.handles }
        directives fuel versioned (handle :: handles)
    | _ => return versioned || !handles.isEmpty

/-- Passes over marks of a document's end. -/
def skipEnds : Nat → Tree Unit
  | 0 => pure ()
  | fuel + 1 => do
    if ← isNext .documentEnd then
      skip
      skipEnds fuel

/-- Whether a token cannot belong to the content of a document. -/
def isOutside : Token → Bool
  | .documentStart => true
  | .documentEnd => true
  | .version _ _ => true
  | .tagPrefix _ _ => true
  | _ => false

/-- Reads the content of a document after its start, which may be missing. -/
def body (fuel : Nat) : Tree Node := do
  match ← peek with
  | none => return nothing
  | some t => if isOutside t then return nothing else node fuel true false

/-- Reads the only document of a text; a text may hold none. -/
def document : Tree (Option Node) := do
  let count := (← get).tokens.length
  let fuel := 4 * count + 4
  let directed ← directives count false []
  if (← peek).isNone && !directed then return none
  else
    let n ← if ← isNext .documentStart then do
        skip
        body fuel
      else if directed then throw .contentExpected
      else node fuel true false
    skipEnds count
    if (← peek).isSome then throw .severalDocuments
    return some n

end Tree

/-- The tree of a text; none for a text without a document. -/
def read (text : String) : Except YamlError (Option Node) := do
  let tokens ← tokensOf text
  let (n, _) ← Tree.document.run
    ⟨tokens, [], [("!", "!"), ("!!", "tag:yaml.org,2002:")]⟩
  .ok n

end Node

end Assay.Yaml
