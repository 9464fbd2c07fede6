/- digest: Routes through a value, as lists of moves, and reading them from selector expressions.
   What follows a complete route in an expression is not looked at. -/

import Assay.Number.Decimal
import Assay.Selector.Lexeme

set_option autoImplicit false
set_option relaxedAutoImplicit false

namespace Assay.Selector

/-- The comparisons and connectives of filters. -/
inductive Relation
  | equal | notEqual | less | atMost | greater | atLeast | and | or
  deriving DecidableEq, Inhabited

/-- One move along a route. -/
inductive Move
  /-- To the whole document. -/
  | root
  /-- To the candidates of a filter. -/
  | here
  /-- The next name or star goes one level down. -/
  | child
  /-- The next name, star or bracket goes to all levels below. -/
  | descend
  /-- A bracket begins. -/
  | bracket
  /-- A bracket ends. -/
  | close
  | all
  | key (name : String)
  | keys (names : List String)
  | number (value : Double)
  /-- A number beyond the largest. -/
  | boundless
  | truth (value : Bool)
  | range (start stop : Option Int) (step : Option Nat)
  | union (positions : List Int)
  | relate (relation : Relation)
  deriving DecidableEq, Inhabited

namespace Move

/-- Moves read from the front of a list of words, and the rest of it; or the number of words from
the place of a fault on. -/
abbrev Reading := Except Nat (List Move × List Lexeme)

/-- A fault at the first of some words, which is looked at and passed over. -/
def faultAfter {α : Type} (words : List Lexeme) : Except Nat α := .error (words.length - 1)

def faultAt {α : Type} (words : List Lexeme) : Except Nat α := .error words.length

/-- A number read from a word, or a fault in front of the word. -/
def needed {α : Type} (n : Option α) (words : List Lexeme) : Except Nat α :=
  match n with
  | some n => .ok n
  | none => faultAt words

def skipGaps : List Lexeme → List Lexeme
  | .gap :: rest => skipGaps rest
  | words => words

/-- A whole number of 64 bits, with an optional sign. -/
def readInt? (text : String) : Option Int :=
  let (negative, ds) := match text.toList with
    | '-' :: r => (true, r)
    | '+' :: r => (false, r)
    | r => (false, r)
  if ds ≠ [] ∧ ds.all Text.isDigit then
    let n := Text.digitsValue ds
    if negative then (if n ≤ Nat.pow 2 63 then some (-(n : Int)) else none)
    else if n < Nat.pow 2 63 then some (n : Int) else none
  else none

def readKeys (fuel : Nat) (done : List String) (words : List Lexeme) : Reading :=
  match fuel with
  | 0 => faultAt words
  | fuel + 1 =>
    match words with
    | .comma :: rest =>
      match skipGaps rest with
      | .quoted k :: rest => readKeys fuel (done ++ [k]) (skipGaps rest)
      | rest => faultAfter rest
    | _ => .ok ([.keys done], words)

/-- A quoted name, or several with commas between them. -/
def readQuotedKeys (name : String) : List Lexeme → Reading
  | .comma :: rest => readKeys (rest.length + 2) [name] (.comma :: rest)
  | rest => .ok ([.key name], rest)

def readUnion (fuel : Nat) (done : List Int) (words : List Lexeme) : Reading :=
  match fuel with
  | 0 => faultAt words
  | fuel + 1 =>
    match words with
    | .comma :: rest =>
      match skipGaps rest with
      | .name t :: rest => do
        let i ← needed (readInt? t) (.name t :: rest)
        readUnion fuel (done ++ [i]) rest
      | rest => faultAfter rest
    | _ => .ok ([.union done], words)

/-- The step of a range: a colon and a count, both optional. -/
def readStep (words : List Lexeme) : Except Nat (Option Nat × List Lexeme) :=
  match skipGaps words with
  | .colon :: rest =>
    match skipGaps rest with
    | .name t :: rest => do
      let n ← needed (Path.readIndex t.toList) (.name t :: rest)
      .ok (some n, rest)
    | rest => .ok (none, rest)
  | rest => .ok (none, rest)

def readRangeTail (start : Option Int) (words : List Lexeme) : Reading :=
  match words with
  | .name t :: rest => do
    let stop ← needed (readInt? t) words
    let (step, rest) ← readStep rest
    .ok ([.range start (some stop) step], rest)
  | _ => faultAfter words

/-- A range that begins with a position, after its first colon. -/
def readRangeFrom (start : Int) (words : List Lexeme) : Reading :=
  match skipGaps words with
  | .name t :: rest => readRangeTail (some start) (.name t :: rest)
  | .colon :: rest => do
    let (step, rest) ← readStep (.colon :: rest)
    .ok ([.range (some start) none step], rest)
  | rest => .ok ([.range (some start) none none], rest)

def readRangeTo (words : List Lexeme) : Reading := do
  let (step, rest) ← readStep words
  match step with
  | some s => .ok ([.range none none (some s)], rest)
  | none =>
    match rest with
    | .closeBracket :: _ => .ok ([.range none none none], rest)
    | _ => readRangeTail none rest

def readPosition (text : String) (words : List Lexeme) : Reading := do
  let i ← needed (readInt? text) (.name text :: words)
  match skipGaps words with
  | .comma :: rest => readUnion (rest.length + 2) [i] (.comma :: rest)
  | .colon :: rest => readRangeFrom i rest
  | rest =>
    let d ← needed (Double.ofInt? i) rest
    .ok ([.number d], rest)

def readIndexer : List Lexeme → Reading
  | .name t :: rest => readPosition t rest
  | .colon :: rest => readRangeTo rest
  | .quoted k :: rest => readQuotedKeys k rest
  | words => faultAfter words

/-- The words for numbers that are not finite, in small letters. -/
def boundlessWords : List String := ["inf", "infinity", "nan"]

/-- A number in a filter: a decimal, or a word for a number that is not finite after a minus sign.
-/
def amount? (text : String) : Option Move :=
  match Decimal.numeral? text.toList with
  | some n => some ((n.nearest?.map .number).getD .boundless)
  | none =>
    match text.toList with
    | '-' :: word =>
      if boundlessWords.contains (String.ofList (word.map Char.toLower)) then some .boundless else none
    | _ => none

/-- A number in a filter; its fraction stands after a point of its own. -/
def readAmount (text : String) : List Lexeme → Reading
  | .dot :: rest =>
    match rest with
    | .name fraction :: others => do
      let m ← needed (amount? (text ++ "." ++ fraction)) rest
      .ok ([m], others)
    | _ => faultAt (.dot :: rest)
  | rest => do
    let m ← needed (amount? text) (.name text :: rest)
    .ok ([m], rest)

/-- A truth value in a filter: any word that begins like one, true only if spelled out. -/
def readTruth (text : String) (rest : List Lexeme) : Reading :=
  match text.toList with
  | c :: _ =>
    if c = 't' ∨ c = 'T' ∨ c = 'f' ∨ c = 'F' then
      .ok ([.truth (text.toList.map Char.toLower == "true".toList)], rest)
    else faultAt rest
  | [] => faultAt rest

def relation? : Lexeme → Option Relation
  | .equal => some .equal
  | .notEqual => some .notEqual
  | .less => some .less
  | .atMost => some .atMost
  | .greater => some .greater
  | .atLeast => some .atLeast
  | _ => none

/-- The closing word that has to follow, after blanks. -/
def readClosing (word : Lexeme) (words : List Lexeme) : Except Nat (List Lexeme) :=
  match skipGaps words with
  | w :: rest => if w = word then .ok rest else faultAt rest
  | [] => faultAt []

mutual

def readSteps : Nat → List Lexeme → Reading
  | 0, words => faultAt words
  | fuel + 1, words =>
    match words with
    | .dot :: rest => readPointed fuel rest
    | .openBracket :: rest => do
      let (moves, rest) ← readBracket fuel (skipGaps rest)
      let (more, rest) ← readSteps fuel rest
      .ok (moves ++ more, rest)
    | _ => .ok ([], words)

def readStepAfterPoint : Nat → List Lexeme → Reading
  | 0, words => faultAt words
  | fuel + 1, words =>
    match words with
    | .dot :: rest =>
      match rest with
      | .star :: rest => .ok ([.descend, .all], rest)
      | .openBracket :: _ => .ok ([.descend], rest)
      | .name k :: rest => .ok ([.descend, .key k], rest)
      | _ => faultAfter rest
    | .star :: rest => .ok ([.child, .all], rest)
    | .name k :: rest => .ok ([.child, .key k], rest)
    | .openBracket :: rest => readBracket fuel rest
    | _ => faultAt words

def readPointed : Nat → List Lexeme → Reading
  | 0, words => faultAt words
  | fuel + 1, words => do
    let (moves, rest) ← readStepAfterPoint fuel words
    let (more, rest) ← readSteps fuel rest
    .ok (moves ++ more, rest)

def readFilterInParens : Nat → List Lexeme → Reading
  | 0, words => faultAt words
  | fuel + 1, words =>
    match words with
    | .openParen :: rest => do
      let (moves, rest) ← readFilter fuel rest
      let rest ← readClosing .closeParen rest
      .ok (moves, rest)
    | _ => faultAfter words

def readBracket : Nat → List Lexeme → Reading
  | 0, words => faultAt words
  | fuel + 1, words => do
    let (moves, rest) ← match words with
      | .question :: rest => readFilterInParens fuel rest
      | .star :: rest => .ok ([.all], rest)
      | _ => readIndexer words
    let rest ← readClosing .closeBracket rest
    .ok (.bracket :: moves ++ [.close], rest)

/-- Conditions with connectives between them; each connective takes all that follows it. -/
def readFilter : Nat → List Lexeme → Reading
  | 0, words => faultAt words
  | fuel + 1, words => do
    let (moves, rest) ← match skipGaps words with
      | .openParen :: rest => readFilterInParens fuel (.openParen :: rest)
      | words => readCondition fuel words
    match skipGaps rest with
    | .and :: rest =>
      let (more, rest) ← readFilter fuel rest
      .ok (moves ++ more ++ [.relate .and], rest)
    | .or :: rest =>
      let (more, rest) ← readFilter fuel rest
      .ok (moves ++ more ++ [.relate .or], rest)
    | rest => .ok (moves, rest)

/-- Two terms with a relation between them, or the steps from a candidate alone. -/
def readCondition : Nat → List Lexeme → Reading
  | 0, words => faultAt words
  | fuel + 1, words => do
    let (moves, rest) ← readTerm fuel words
    let rest := skipGaps rest
    match rest.head?.bind relation? with
    | some r =>
      let (right, rest) ← readTerm fuel (skipGaps rest.tail)
      .ok (moves ++ right ++ [.relate r], rest)
    | none => if words.head? = some .at then .ok (moves, rest) else faultAt rest

def readTerm : Nat → List Lexeme → Reading
  | 0, words => faultAt words
  | fuel + 1, words =>
    match words with
    | .at :: rest =>
      match rest with
      | .gap :: _ => .ok ([.here], skipGaps rest)
      | _ => do
        let (moves, rest) ← readSteps fuel rest
        .ok (.here :: moves, rest)
    | .root :: rest => do
      let (moves, rest) ← readSteps fuel rest
      .ok (.root :: moves, rest)
    | .quoted k :: rest => readQuotedKeys k rest
    | .name t :: rest =>
      match t.toList with
      | c :: _ => if c = '-' ∨ Text.isDigit c then readAmount t rest else readTruth t rest
      | [] => faultAt rest
    | _ => faultAt words

end

/-- The route that an expression describes, or the number of bytes before the place of its fault. -/
def ofText (text : String) : Except Nat (List Move) :=
  let words := Lexeme.ofText text.toList
  let route : Reading :=
    match words with
    | .root :: rest => readSteps (6 * rest.length + 12) rest
    | _ => faultAfter words
  match route with
  | .ok (moves, _) => .ok (.root :: moves)
  | .error left => .error (Lexeme.sizeOfFirst (words.length - left) text.toList)

end Move

end Assay.Selector
