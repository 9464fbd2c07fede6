/- digest: The room that the automaton of a regular expression takes, in which repetitions are
   written out. It is built for both directions, and either may take too much. -/

import Assay.Pattern.Plan
import Std.Data.HashMap

set_option autoImplicit false
set_option relaxedAutoImplicit false

namespace Assay.Pattern

open Text (CodeRanges)

/-- Expressions may take this much room, in bytes. -/
def roomLimit : Nat := 10485760

/-- The direction in which an automaton reads a text. -/
inductive Way
  | onward | backward
  deriving DecidableEq

/-- How far an automaton is built: the number of its states, the bytes of their links, and whether
the last part is left by a state that grows with every link. -/
structure Build where
  states : Nat
  linkBytes : Nat
  forks : Bool

namespace Build

def start : Build := ⟨0, 0, false⟩

def room (b : Build) : Nat := 32 * b.states + b.linkBytes

/-- Whether there is no more room. What is built only grows. -/
def isFull (b : Build) : Bool := roomLimit < b.room

def add (b : Build) (bytes : Nat) : Build := ⟨b.states + 1, b.linkBytes + bytes, false⟩

/-- Adds a state with some links of its own, which is left by a further one. -/
def fork (b : Build) (links : Nat) : Build := ⟨b.states + 1, b.linkBytes + 4 * links, true⟩

def link (b : Build) : Build := if b.forks then { b with linkBytes := b.linkBytes + 4 } else b

/-- Builds something a number of times in a row. -/
def copies (body : Build → Build) : Nat → Build → Build
  | 0, b => b
  | n + 1, b => if b.isFull then b else copies body n (body b.link)

end Build

/-- A link to a state for the octets between two bounds. -/
structure Link where
  octets : OctetRange
  target : Nat
  deriving DecidableEq

def mixed (numbers : List Nat) : UInt64 :=
  numbers.foldl (fun key n => (key ^^^ n.toUInt64) * 1099511628211) 14695981039346656037

/-- States that were built for a set, by their keys in a table of fixed length; a later state of the
same key takes the place of an earlier one. -/
structure Known (α : Type) where
  length : UInt64
  found : Std.HashMap UInt64 (α × Nat)

namespace Known

def none (α : Type) (length : UInt64) : Known α := ⟨length, ∅⟩

def place {α : Type} (k : Known α) (numbers : List Nat) : UInt64 := mixed numbers % k.length

/-- The state that was built for something, if it is still known. -/
def get? {α : Type} [DecidableEq α] (k : Known α) (numbers : List Nat) (what : α) : Option Nat :=
  match k.found[k.place numbers]? with
  | some (known, state) => if known = what then some state else Option.none
  | Option.none => Option.none

def insert {α : Type} (k : Known α) (numbers : List Nat) (what : α) (state : Nat) : Known α :=
  { k with found := k.found.insert (k.place numbers) (what, state) }

end Known

/-- A state with the given links, which is built unless it is known. -/
def buildLinks (links : List Link) (s : Build × Known (List Link)) :
    Nat × (Build × Known (List Link)) :=
  let numbers := links.flatMap fun l => [l.octets.1, l.octets.2, l.target]
  match s.2.get? numbers links with
  | some state => (state, s)
  | none => (s.1.states, s.1.add (8 * links.length), s.2.insert numbers links s.1.states)

/-- The state from which runs lead to a target, after the states that they pass; `longest` bounds
the length of the runs. -/
def buildRuns (target : Nat) :
    Nat → List (List OctetRange) → Build × Known (List Link) → Nat × (Build × Known (List Link))
  | 0, _, s => (target, s)
  | longest + 1, runs, s =>
    match groupRuns runs with
    | [] => (target, s)
    | groups =>
      let (links, s) := groups.foldl (fun (links, s) (octets, tails) =>
        let (next, s) := buildRuns target longest tails s
        (⟨octets, next⟩ :: links, s)) ([], s)
      buildLinks links.reverse s

/-- The states of a run from its last octet on, each of which is built unless it is known. -/
def buildBackward (next : Nat) :
    List OctetRange → Build × Known (Nat × OctetRange) → Build × Known (Nat × OctetRange)
  | [], s => s
  | octets :: rest, s =>
    let numbers := [next, octets.1, octets.2]
    match s.2.get? numbers (next, octets) with
    | some state => buildBackward state rest s
    | none =>
      let state := s.1.states
      buildBackward state rest (s.1.add 0, s.2.insert numbers (next, octets) state)

/-- One of the codes of a set. Sets of one octet each take one state, and one that they lead to. -/
def buildSet (way : Way) (ranges : List (Nat × Nat)) (b : Build) : Build :=
  if ranges.all (·.2 < 0x80) then (b.add 0).add (8 * ranges.length)
  else
    let runs := runsOf ⟨ranges⟩
    match way with
    | .onward => (buildRuns b.states 4 runs (b.add 0, .none (List Link) 10000)).2.1
    | .backward =>
      let target := b.states + 1
      let start := (b.fork runs.length).add 0
      (runs.foldl (fun s run => buildBackward target run s)
        (start, .none (Nat × OctetRange) 1000)).1

/-- Words by their first octets, each time with what follows these. -/
def groupWords (words : List (List Nat)) : List (List (List Nat)) :=
  let firsts := (words.filterMap List.head?).eraseDups
  firsts.map fun first => words.filterMap fun w =>
    if w.head? = some first then w.tail? else none

def wordsBetween : List (List Nat) → List (List (List Nat))
  | [] => [[]]
  | word :: rest =>
    match wordsBetween rest with
    | part :: parts => if word.isEmpty then [] :: part :: parts else (word :: part) :: parts
    | [] => [[word]]

/-- Words divided at the empty ones, which end a match. Those at the front count as one. -/
def chunksOf (words : List (List Nat)) : List (List (List Nat)) :=
  let front := if words.head? = some [] then [[]] else []
  front ++ wordsBetween (words.dropWhile (·.isEmpty))

/-- Words that share their fronts as far as their order allows; `longest` bounds their length. -/
def buildWords : Nat → List (List Nat) → Build → Build
  | 0, _, b => b
  | longest + 1, words, b =>
    let chunks := chunksOf words
    let b := chunks.foldl (fun b chunk =>
      let groups := groupWords chunk
      let b := groups.foldl (fun b tails =>
        if tails.all (·.isEmpty) then b else buildWords longest tails b) b
      match groups.length with
      | 0 => b
      | 1 => b.add 0
      | n => b.add (8 * n)) b
    b.add (4 * ((chunks.filter fun c => !c.isEmpty).length + chunks.length - 1))

def textsOf (plans : List Plan) : List (List Nat) :=
  plans.filterMap fun p => match p with
    | .text codes => some (Plan.textOctets codes)
    | _ => none

def buildTexts (way : Way) (texts : List (List Nat)) (b : Build) : Build :=
  let words := match way with
    | .onward => texts
    | .backward => texts.map (·.reverse)
  let longest := words.foldl (fun n w => max n w.length) 0
  { buildWords (longest + 1) words (b.add 0) with forks := false }

/-- What is repeated without a bound; `isLong` says that it matches at least one octet each time. -/
def buildUnbounded (isLong : Bool) (body : Build → Build) (least : Nat) (b : Build) : Build :=
  if 1 < least then (body (({ b with forks := false }).copies body (least - 1)).link).link.fork 1
  else if least = 1 then (body b).link.fork 1
  else if isLong then { (body (b.fork 1)).link with forks := true }
  else (((body b).link.fork 2).fork 2).add 0

def buildBounded (body : Build → Build) (least most : Nat) (b : Build) : Build :=
  let always := if least = 0 then b.add 0 else ({ b with forks := false }).copies body least
  if least = most then always
  else
    let optional (b : Build) : Build := (body (b.fork 2)).link
    { (always.link.add 0).copies (fun b => { optional b with forks := false }) (most - least) with
      forks := false }

mutual

def build (way : Way) : Plan → Build → Build
  | .nothing, b => b.add 0
  | .text codes, b => { b with states := b.states + (Plan.textOctets codes).length, forks := false }
  | .oneOf ranges, b => buildSet way ranges b
  | .edge _, b => b.add 0
  | .repeated inner least most, b =>
    match least, most with
    | 0, some 1 => ((build way inner (b.fork 2)).link).add 0
    | least, some most => buildBounded (fun b => build way inner b) least most b
    | least, none =>
      let isLong := inner.shortest?.any (0 < ·)
      buildUnbounded isLong (fun b => build way inner b) least b
  | .kept inner, b =>
    match way with
    | .onward => (build way inner (b.add 0)).link.add 0
    | .backward => build way inner b
  | .sequence parts, b => buildRow way parts { b with forks := false }
  | .choice parts, b =>
    let texts := textsOf parts
    if texts.length = parts.length then buildTexts way texts b
    else
      let links := { b with linkBytes := b.linkBytes + 4 * parts.length }
      { buildEach way 0 parts links with forks := false }

def buildRow (way : Way) : List Plan → Build → Build
  | [], b => b
  | p :: rest, b =>
    match way with
    | .onward => buildRow way rest (build way p b.link)
    | .backward => build way p (buildRow way rest b).link

/-- Builds plans to choose from. The states where they part and meet come after the first two. -/
def buildEach (way : Way) (done : Nat) : List Plan → Build → Build
  | [], b => b
  | p :: rest, b =>
    let b := (build way p b).link
    buildEach way (done + 1) rest (if done = 1 then (b.add 0).add 0 else b)

end

/-- Whether one of the first parts of a row is tied to a place; only parts that match nothing but
edges may stand before it. The parts come with whether they are tied and whether they are such. -/
def meetsTie (parts : List (Bool × Bool)) : Bool :=
  match parts.dropWhile fun p => !p.1 && p.2 with
  | (tied, _) :: _ => tied
  | [] => false

mutual

/-- Whether all matches of a plan begin at an edge, or end at it when read backward. -/
def isTied (way : Way) (place : Edge) : Plan → Bool
  | .edge e => e == place
  | .repeated inner least _ => 0 < least && isTied way place inner
  | .kept inner => isTied way place inner
  | .sequence parts =>
    match way with
    | .onward => meetsTie (ties way place parts)
    | .backward => meetsTie (ties way place parts).reverse
  | .choice parts => allTied way place parts
  | _ => false

/-- The parts of a row: whether they are tied, and whether they match without octets only. -/
def ties (way : Way) (place : Edge) : List Plan → List (Bool × Bool)
  | [] => []
  | p :: rest => (isTied way place p, p.longest? == some 0) :: ties way place rest

def allTied (way : Way) (place : Edge) : List Plan → Bool
  | [] => true
  | p :: rest => isTied way place p && allTied way place rest

end

/-- What stands before a plan: nothing where it is tied, else a loop over all octets. -/
def buildFront (tied : Bool) : Build :=
  if tied then Build.start.add 0 else ((Build.start.fork 2).add 0).add 8

/-- The whole automaton. Read onward, it also keeps where the whole matches. -/
def buildAll (way : Way) (p : Plan) : Build :=
  match way with
  | .onward => (build way (.kept p) (buildFront (isTied way .start p))).add 0
  | .backward => (build way p (buildFront (isTied way .finish p))).link.add 0

def isTooLarge (p : Pattern) : Bool :=
  let plan := Plan.ofPattern p
  (buildAll .onward plan).isFull || (buildAll .backward plan).isFull

end Assay.Pattern
