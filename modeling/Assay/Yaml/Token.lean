/- digest: Tokens of YAML, classes of its characters, and a cursor that knows its line and column.
   -/

set_option autoImplicit false
set_option relaxedAutoImplicit false

namespace Assay

/-- Why a text is not a YAML document of the expected shape. -/
inductive YamlError
  | badCharacter | badEscape | badScalar | badAnchor | badTag | badDirective | badIndentation
  | keyExpected | valueExpected | notHere | unclosed | contentExpected
  | unknownAnchor | severalDocuments | tooDeep | tooManyAliases | wrongShape
  deriving DecidableEq

namespace Yaml

/-- How a scalar is written. -/
inductive Style
  | plain | quoted | literal | folded
  deriving DecidableEq

/-- A token. The end of the list of tokens is the end of the text. -/
inductive Token
  | version (major minor : Nat)
  | tagPrefix (handle text : String)
  | documentStart | documentEnd
  | sequenceStart | mappingStart | blockEnd
  | leftBracket | rightBracket | leftBrace | rightBrace
  | dash | comma | key | value
  | anchor (name : String)
  | alias (name : String)
  | tag (handle suffix : String)
  | scalar (text : String) (style : Style)
  deriving DecidableEq

def isAllowed (c : Char) : Bool :=
  let n := c.toNat
  n == 0x09 || n == 0x0a || n == 0x0d || (0x20 ≤ n && n ≤ 0x7e) || n == 0x85 ||
    (0xa0 ≤ n && n ≤ 0xd7ff) || (0xe000 ≤ n && n ≤ 0xfffd) || 0x10000 ≤ n

def isGap (c : Char) : Bool := c == ' ' || c == '\t'

def isBreak (c : Char) : Bool :=
  let n := c.toNat
  n == 0x0a || n == 0x0d || n == 0x85 || n == 0x2028 || n == 0x2029

/-- The characters of names of anchors and tags. -/
def isWordChar (c : Char) : Bool :=
  ('a' ≤ c && c ≤ 'z') || ('A' ≤ c && c ≤ 'Z') || ('0' ≤ c && c ≤ '9') || c == '_' || c == '-'

def width (cs : List Char) : Nat := cs.foldl (fun n c => n + c.utf8Size) 0

/-- A place in a text: what follows it, and the bytes, lines and columns before it. -/
structure Cursor where
  rest : List Char
  index : Nat
  line : Nat
  column : Nat

namespace Cursor

def start (cs : List Char) : Cursor := ⟨cs, 0, 0, 0⟩

/-- Whether a list begins with a gap, a line end or the end of the text. -/
def endsWord : List Char → Bool
  | [] => true
  | c :: _ => isGap c || isBreak c

/-- Whether the cursor is at a gap, a line end or the end of the text. -/
def atWordEnd (c : Cursor) : Bool := endsWord c.rest

def atLineEnd (c : Cursor) : Bool :=
  match c.rest with
  | [] => true
  | x :: _ => isBreak x

def isAt (c : Cursor) (x : Char) : Bool := c.rest.head? == some x

def skip (c : Cursor) (count : Nat) : Cursor :=
  ⟨c.rest.drop count, c.index + width (c.rest.take count), c.line, c.column + count⟩

/-- Passes over a byte order mark at the start of a line; it takes up a column. -/
def skipOrderMark (c : Cursor) : Cursor :=
  if c.column == 0 && c.rest.head?.any (·.toNat == 0xfeff) then c.skip 1 else c

/-- The characters of a line from the cursor on that pass a test, and the cursor after them. -/
def takeWhile (c : Cursor) (test : Char → Bool) : List Char × Cursor :=
  let cs := c.rest.takeWhile test
  (cs, c.skip cs.length)

/-- Reads a line end: most become a line feed. -/
def takeBreak (c : Cursor) : List Char × Cursor :=
  match c.rest with
  | '\r' :: '\n' :: r => (['\n'], ⟨r, c.index + 2, c.line + 1, 0⟩)
  | x :: r =>
    if isBreak x then
      ([if x.toNat == 0x2028 || x.toNat == 0x2029 then x else '\n'],
        ⟨r, c.index + x.utf8Size, c.line + 1, 0⟩)
    else ([], c)
  | [] => ([], c)

/-- Whether three marks of a document's start or end stand at the beginning of the line. -/
def atDocumentMark (c : Cursor) : Bool :=
  c.column == 0 &&
    match c.rest with
    | '-' :: '-' :: '-' :: r => endsWord r
    | '.' :: '.' :: '.' :: r => endsWord r
    | _ => false

end Cursor

end Yaml

end Assay
