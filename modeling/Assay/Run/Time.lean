/- digest: The time of a run: readings of the clock, timers that fire at full milliseconds, and the
   places where a computation waits and a deadline may end it. Times are in microseconds. -/

import Assay.Run.Exec

set_option autoImplicit false
set_option relaxedAutoImplicit false

namespace Assay.Exec

variable {α : Type}

/-- When a timer fires that is set at a time for some milliseconds: never early, and only at full
milliseconds. -/
def firing (time milliseconds : Nat) : Nat := (time / 1000 + 1 + milliseconds) * 1000

def readClock : Exec Nat := do
  let w ← surroundings
  let s ← get
  let time := s.now + w.pace s.readings
  set { s with now := time, readings := s.readings + 1 }
  return time

def passTo (time : Nat) : Exec Unit := modify fun s => { s with now := max s.now time }

/-- The earliest deadline before a moment and the loop that it belongs to; of several at once, that
of the innermost loop. -/
def strikes? (time : Nat) : List Nat → Option (Nat × Nat)
  | [] => none
  | deadline :: around =>
    match strikes? time around with
    | some (earliest, loop) =>
      if deadline ≤ earliest then some (deadline, 0) else some (earliest, loop + 1)
    | none => if deadline < time then some (deadline, 0) else none

/-- Waits for a moment, unless a deadline strikes before. -/
def waitTo (time : Nat) : Exec Unit := do
  match strikes? time (← surroundings).deadlines with
  | none => passTo time
  | some (deadline, loop) =>
    passTo deadline
    throw (.cancelled loop)

def pause (milliseconds : Nat) : Exec Unit := do
  waitTo (firing (← get).now milliseconds)

/-- Lets a deadline strike that has come; no time passes. -/
def giveWay : Exec Unit := do
  match strikes? ((← get).now + 1) (← surroundings).deadlines with
  | none => pure ()
  | some (_, loop) => throw (.cancelled loop)

/-- Runs a computation under a deadline of its own; none if that strikes. -/
def underDeadline (deadline : Nat) (x : Exec α) : Exec (Option α) := fun w s =>
  match x { w with deadlines := deadline :: w.deadlines } s with
  | (.ok a, s) => (.ok (some a), s)
  | (.error (.cancelled 0), s) => (.ok none, s)
  | (.error (.cancelled (loop + 1)), s) => (.error (.cancelled loop), s)
  | (.error e, s) => (.error e, s)

end Assay.Exec
