/- digest: Parts of texts: finding, replacing, cutting and joining. -/

set_option autoImplicit false
set_option relaxedAutoImplicit false

namespace Assay.Text

def afterChars? : List Char → List Char → Option (List Char)
  | [], cs => some cs
  | _ :: _, [] => none
  | p :: ps, c :: cs => if p = c then afterChars? ps cs else none

/-- The rest of a list after the last occurrence of a part. -/
def afterLast? (part : List Char) : List Char → Option (List Char)
  | [] => afterChars? part []
  | c :: rest => afterLast? part rest <|> afterChars? part (c :: rest)

def occursIn (part : List Char) : List Char → Bool
  | [] => part.isEmpty
  | c :: rest => part.isPrefixOf (c :: rest) || occursIn part rest

def contains (text part : String) : Bool :=
  occursIn part.toList text.toList

def startsWith (text part : String) : Bool :=
  part.toList.isPrefixOf text.toList

def endsWith (text part : String) : Bool :=
  part.toList.isSuffixOf text.toList

def before? (text part : String) : Option String :=
  (afterChars? part.toList.reverse text.toList.reverse).map fun r => String.ofList r.reverse

/-- Replaces occurrences from the left; `wait` counts the characters of the last one still to be
passed over. -/
def replaceChars (part new : List Char) (wait : Nat) : List Char → List Char
  | [] => []
  | c :: rest =>
    match wait with
    | n + 1 => replaceChars part new n rest
    | 0 =>
      if part.isPrefixOf (c :: rest) then new ++ replaceChars part new (part.length - 1) rest
      else c :: replaceChars part new 0 rest

/-- Replaces every occurrence of a text that is not empty, from the left and without overlaps. -/
def replace (text part new : String) : String :=
  if part.isEmpty then text
  else String.ofList (replaceChars part.toList new.toList 0 text.toList)

/-- The texts around the first occurrence of a character. -/
def cutAt? (mark : Char) (text : String) : Option (String × String) :=
  let head := text.toList.takeWhile (· ≠ mark)
  match text.toList.dropWhile (· ≠ mark) with
  | _ :: tail => some (String.ofList head, String.ofList tail)
  | [] => none

def splitChars (mark : Char) : List Char → List (List Char)
  | [] => [[]]
  | c :: r =>
    if c = mark then [] :: splitChars mark r
    else match splitChars mark r with
      | [] => [[c]]
      | head :: tail => (c :: head) :: tail

/-- All pieces of a text between occurrences of a character. -/
def split (mark : Char) (text : String) : List String :=
  (splitChars mark text.toList).map String.ofList

def join (between : String) : List String → String
  | [] => ""
  | [s] => s
  | s :: rest => s ++ between ++ join between rest

end Assay.Text
