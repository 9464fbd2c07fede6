/- digest: Loops, over the items of a value and under a condition. The body of a loop is any
   computation that gives the results of one round. -/

import Assay.Run.Time

set_option autoImplicit false
set_option relaxedAutoImplicit false

namespace Assay

abbrev LoopBody := Exec (List StepResult)

def maxMilliseconds : Nat := Nat.pow 2 64 - 1

/-- A count of milliseconds: the nearest to the number of a value, which must not be negative. -/
def milliseconds? (v : Json) : Option Nat :=
  match Compare.number? v with
  | some d => if d.negative && !d.isZero then none else some (min d.roundAway maxMilliseconds)
  | none => none

namespace Exec

def readMilliseconds (v : Json) (what : String) : Exec Nat := do
  let v ← resolveValue v
  match milliseconds? v with
  | some count => pure count
  | none => complain ("invalid " ++ what ++ " '" ++ v.plainText ++ "'")

end Exec

namespace Each

/-- The items that a loop runs over; an object gives its members as pairs. -/
def items? : Json → Option (List Json)
  | .array items => some items
  | .object members =>
    some (members.map fun m => .object [("key", .string m.1), ("value", m.2)])
  | .null => some []
  | .string s => if s.isEmpty then some [] else none
  | _ => none

def rounds (itemPath indexPath : Path) (body : LoopBody) :
    Nat → List Json → Exec (Except Fault (List StepResult))
  | _, [] => pure (.ok [])
  | index, item :: rest => do
    let _ ← Exec.write itemPath item
    let _ ← Exec.write indexPath (.nat index)
    match ← Exec.attempt body with
    | .error f => pure (.error f)
    | .ok results =>
      match ← rounds itemPath indexPath body (index + 1) rest with
      | .error f => pure (.error f)
      | .ok others => pure (.ok (.ofRound index results :: others))

def restore (p : Path) (old : Option Json) : Exec Unit := do
  match old with
  | some v =>
    let _ ← Exec.write p v
    pure ()
  | none =>
    match (← Exec.context).remove? p with
    | some (_, c) => Exec.setContext c
    | none => pure ()

/-- A loop over items: the item and its index stand at two places while the body runs. -/
def run (source : Json) (itemKey indexKey : String) (body : LoopBody) : Exec Outcome := do
  let source ← Exec.resolveValue source
  match items? source with
  | none => Exec.complain ("'items' must resolve to an array, got " ++ source.typeName ++ " '" ++
      source.plainText ++ "'")
  | some items =>
    let itemPath ← Exec.readPath itemKey
    let indexPath ← Exec.readPath indexKey
    let oldItem := (← Exec.context).get? itemPath
    let oldIndex := (← Exec.context).get? indexPath
    let results ← rounds itemPath indexPath body 0 items
    restore itemPath oldItem
    restore indexPath oldIndex
    match results with
    | .error f => Exec.fault f
    | .ok inner =>
      return (Outcome.passed.withDetails [("iterations", .nat items.length)]).withInner inner

end Each

namespace Loop

def stillTrue (timeout done : Nat) : Outcome :=
  .failed ("condition still true after " ++ toString timeout ++ " ms (" ++ toString done ++
    " iteration(s))")

def closing (done : Nat) (last : Finding) : Members Json :=
  [("iterations", .nat done), ("condition", last.redacted.toJson)]

/-- Adds a completed round to those before it, unless it had no steps. -/
def addRound (done : Nat) (results inner : List StepResult) : List StepResult :=
  if results.isEmpty then inner else inner ++ [.ofRound done results]

/-- The rounds of a loop while its condition holds, at most `patience` of them. -/
def rounds (condition : Assertion) (body : LoopBody) (timeout start : Nat) :
    Nat → Nat → List StepResult → Exec Outcome
  | 0, _, _ => throw .exhausted
  | patience + 1, done, inner => do
    let last ← Exec.check condition
    if !last.success then
      return (Outcome.passed.withDetails (closing done last)).withInner inner
    if start + timeout * 1000 ≤ (← Exec.readClock) then
      return ((stillTrue timeout done).withDetails (closing done last)).withInner inner
    match ← Exec.underDeadline (Exec.firing start timeout) body with
    | none =>
      return ((stillTrue timeout done).withDetails [("iterations", .nat done)]).withInner inner
    | some results =>
      Exec.giveWay
      rounds condition body timeout start patience (done + 1) (addRound done results inner)

/-- A loop under a condition for some milliseconds at most. A round that still runs at the end of
that time is broken off. -/
def run (condition : Assertion) (timeout : Json) (body : LoopBody) : Exec Outcome := do
  let timeout ← Exec.readMilliseconds timeout "while timeout"
  let start ← Exec.readClock
  rounds condition body timeout start (← Exec.surroundings).patience 0 []

end Loop

end Assay
