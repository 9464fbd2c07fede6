/- digest: Whether a regular expression matches in a text: all places that can be reached are
   followed at once, so that the work does not depend on the ways to reach them. -/

import Assay.Pattern.Basic
import Assay.Pattern.Named

set_option autoImplicit false
set_option relaxedAutoImplicit false

namespace Assay.Pattern

/-- A set of places in a text: place `i`, before the character `i`, belongs to it when bit `i` is
set. -/
abbrev Places := Nat

/-- A regular expression for one text: characters and edges are replaced by the places where they
are found. -/
inductive Track
  | stay
  | advance (from_ : Places)
  | only (at_ : Places)
  | repeated (inner : Track) (least : Nat) (most : Option Nat)
  | sequence (parts : List Track)
  | choice (parts : List Track)

/-- The places that pass a test, with the characters before and after each. -/
def placesWhere (test : Option Char → Option Char → Bool) (before : Option Char) :
    List Char → Places
  | [] => if test before none then 1 else 0
  | c :: rest =>
    2 * placesWhere test (some c) rest + (if test before (some c) then 1 else 0)

def isWordAt (plain : Bool) : Option Char → Bool
  | some c => (wordSet plain).contains c
  | none => false

def Edge.between (e : Edge) (before after : Option Char) : Bool :=
  match e with
  | .start => before.isNone
  | .finish => after.isNone
  | .lineStart => before.isNone || before == some '\n'
  | .lineFinish => after.isNone || after == some '\n'
  | .anyLineStart =>
    before.isNone || before == some '\n' || (before == some '\r' && after != some '\n')
  | .anyLineFinish =>
    after.isNone || after == some '\r' || (after == some '\n' && before != some '\r')
  | .word plain => isWordAt plain before != isWordAt plain after
  | .notWord plain => isWordAt plain before == isWordAt plain after
  | .wordStart plain => !isWordAt plain before && isWordAt plain after
  | .wordFinish plain => isWordAt plain before && !isWordAt plain after
  | .notAfterWord plain => !isWordAt plain before
  | .notBeforeWord plain => !isWordAt plain after

mutual

def track (text : List Char) : Pattern → Track
  | .empty => .stay
  | .options => .stay
  | .one set =>
    .advance (placesWhere (fun _ after => (after.map set.contains).getD false) none text)
  | .edge e => .only (placesWhere e.between none text)
  | .repeated inner least most => .repeated (track text inner) least most
  | .group _ inner => track text inner
  | .sequence parts => .sequence (tracks text parts)
  | .choice parts => .choice (tracks text parts)

def tracks (text : List Char) : List Pattern → List Track
  | [] => []
  | p :: rest => track text p :: tracks text rest

end

/-- Applies a step a number of times; a set that stays as it is ends this early. -/
def times (step : Places → Places) : Nat → Places → Places
  | 0, s => s
  | n + 1, s =>
    let next := step s
    if next = s then s else times step n next

/-- Applies a step up to a number of times and collects all places on the way; only new places are
followed. -/
def collect (step : Places → Places) : Nat → Places → Places → Places
  | 0, all, _ => all
  | n + 1, all, fresh =>
    let next := step fresh
    let fresh := (all ||| next) ^^^ all
    if fresh = 0 then all else collect step n (all ||| next) fresh

mutual

/-- The places that a track leads to from given ones, in a text of `size` characters. -/
def Track.run (size : Nat) : Track → Places → Places
  | .stay, s => s
  | .advance starts, s => (s &&& starts) <<< 1
  | .only places, s => s &&& places
  | .repeated inner least most, s =>
    let after := times (fun s => Track.run size inner s) least s
    let more := match most with
      | some m => min (m - least) (size + 1)
      | none => size + 1
    collect (fun s => Track.run size inner s) more after after
  | .sequence parts, s => Track.runAll size parts s
  | .choice parts, s => Track.runAny size parts s

def Track.runAll (size : Nat) : List Track → Places → Places
  | [], s => s
  | t :: rest, s => Track.runAll size rest (Track.run size t s)

def Track.runAny (size : Nat) : List Track → Places → Places
  | [], _ => 0
  | t :: rest, s => Track.run size t s ||| Track.runAny size rest s

end

def isMatch (p : Pattern) (text : String) : Bool :=
  let cs := text.toList
  (track cs p).run cs.length (Nat.pow 2 (cs.length + 1) - 1) != 0

end Assay.Pattern
