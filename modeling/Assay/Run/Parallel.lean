/- digest: Running the suites of many files, with a limited number of them under way at a time. They
   take turns where they send requests, in any order that a schedule gives, and every file leaves
   exactly one result. -/

import Assay.Run.Suite

set_option autoImplicit false
set_option relaxedAutoImplicit false

namespace Assay

namespace Http

abbrev Answer := Except String Response

/-- Answers the first requests as given, and leaves the later ones to a transport that has had other
requests before. -/
def Transport.after (transport : Transport) (sent : List Request) (answers : List Answer) :
    Transport :=
  fun before request =>
    match answers[before.length]? with
    | some answer => answer
    | none => transport (sent ++ before.drop answers.length) request

def Transport.absent : Transport := fun _ _ => .error ""

end Http

/-- How time passes for one of several suites. -/
structure Timing where
  start : Nat
  pace : Nat → Nat
  latency : List Http.Request → Http.Request → Nat

/-- How far the run of a file has got. -/
inductive Stage
  | waiting
  /-- The suite runs, and its first requests have these answers. -/
  | underWay (timing : Timing) (answers : List Http.Answer)
  /-- The suite has ended with a result or in a breakdown, and its permit is not given back yet. -/
  | ended (outcome : Except String SuiteResult)
  | done (result : SuiteResult)
  | collected

def Stage.holds : Stage → Bool
  | .underWay _ _ => true
  | .ended _ => true
  | _ => false

/-- The run of a file. -/
structure FileRun where
  path : String
  stage : Stage

/-- What the run of a file does next. -/
inductive FileMove
  /-- It takes a permit and its suite starts. -/
  | begin (timing : Timing)
  /-- Its suite goes on until it has the answer to its next request. -/
  | ask
  /-- Its suite goes on to its end. -/
  | finish
  /-- The permit is given back. -/
  | release
  /-- Its result is taken over. -/
  | collect

/-- One turn of a schedule: a file and what its run does. -/
structure Turn where
  place : Nat
  move : FileMove

/-- The runs of some files, with the results taken over so far. -/
structure Pool where
  permits : Nat
  runs : List FileRun
  results : List SuiteResult

namespace Pool

/-- All files wait. Even without a permit one suite at a time may run. -/
def ofFiles (paths : List String) (limit : Nat) : Pool :=
  ⟨max 1 limit, paths.map fun path => ⟨path, .waiting⟩, []⟩

def held (p : Pool) : Nat := (p.runs.filter (·.stage.holds)).length

/-- Brings the run of a file to a stage. -/
def put (p : Pool) (place : Nat) (path : String) (stage : Stage) : Pool :=
  { p with runs := p.runs.set place ⟨path, stage⟩ }

def maxPermits : Nat := Nat.pow 2 61 - 1

/-- The runs of files before the first turn. With too many permits all of the work breaks down. -/
def opening (paths : List String) (limit : Nat) : Exec Pool :=
  if maxPermits < max 1 limit then
    throw (.breakdown ("a semaphore may not have more than MAX_PERMITS permits (" ++
      toString maxPermits ++ ")"))
  else pure (ofFiles paths limit)

end Pool

namespace Runner

/-- The result of a suite that broke down. -/
def ofBreakdown (path text : String) : SuiteResult :=
  .failed (nameOfFile path) (some path) ("suite task failed: panicked: " ++ text)

/-- The result for a file whose suite has ended; a breakdown is a failure of this suite alone. -/
def closing (path : String) : Except String SuiteResult → SuiteResult
  | .ok result => result
  | .error text => ofBreakdown path text

/-- The run of a file from its start, with a transport and a timing of its own. -/
def runAside (r : Runner) (path : String) (timing : Timing) (transport : Http.Transport)
    (w : Surroundings) : Except Stop SuiteResult × RunState :=
  r.runFile path
    { w with
      transport := transport, pace := timing.pace, latency := timing.latency, deadlines := [] }
    ⟨.empty, timing.start, 0, []⟩

/-- The request that a suite sends next. Its run up to there depends on the answers to the requests
before alone. -/
def nextRequest? (r : Runner) (path : String) (timing : Timing) (answers : List Http.Answer)
    (w : Surroundings) : Option Http.Request :=
  (r.runAside path timing (Http.Transport.absent.after [] answers) w).2.sent[answers.length]?

/-- Sends a request on the transport that all suites share. -/
def askShared (request : Http.Request) : Exec Http.Answer := do
  let before := (← get).sent
  modify fun s => { s with sent := before ++ [request] }
  return (← Exec.surroundings).transport before request

/-- Runs a suite to its end, with the answers that it has. -/
def conclude (r : Runner) (path : String) (timing : Timing) (answers : List Http.Answer) :
    Exec (Except String SuiteResult) := fun w s =>
  let (outcome, t) := r.runAside path timing (w.transport.after s.sent answers) w
  let s := { s with now := max s.now t.now, sent := s.sent ++ t.sent.drop answers.length }
  match outcome with
  | .ok result => (.ok (.ok result), s)
  | .error (.breakdown text) => (.ok (.error text), s)
  | .error e => (.error e, s)

/-- One turn of a schedule. A move that is not open to the run of the file changes nothing. -/
def turn (r : Runner) (p : Pool) (t : Turn) : Exec Pool :=
  match p.runs[t.place]? with
  | none => pure p
  | some ⟨path, stage⟩ =>
    match t.move, stage with
    | .begin timing, .waiting =>
      pure (if p.held < p.permits then p.put t.place path (.underWay timing []) else p)
    | .ask, .underWay timing answers => do
      match r.nextRequest? path timing answers (← Exec.surroundings) with
      | none => return p
      | some request =>
        let answer ← askShared request
        return p.put t.place path (.underWay timing (answers ++ [answer]))
    | .finish, .underWay timing answers => do
      let outcome ← r.conclude path timing answers
      return p.put t.place path (.ended outcome)
    | .release, .ended outcome => pure (p.put t.place path (.done (closing path outcome)))
    | .collect, .done result =>
      pure { p.put t.place path .collected with results := p.results ++ [result] }
    | _, _ => pure p

/-- Runs suites as a schedule says. -/
def play (r : Runner) (p : Pool) : List Turn → Exec Pool
  | [] => pure p
  | t :: rest => do
    let p ← r.turn p t
    play r p rest

def runFilesAlong (r : Runner) (paths : List String) (limit : Nat) (turns : List Turn) :
    Exec Pool := do
  let p ← Pool.opening paths limit
  r.play p turns

/-- The turns in which the run of a file goes from its start to its end. -/
def wholeRun (timing : Timing) (place : Nat) : List Turn :=
  [.begin timing, .finish, .release, .collect].map fun move => ⟨place, move⟩

def readTime : Exec Timing := do
  let w ← Exec.surroundings
  return ⟨(← get).now, w.pace, w.latency⟩

def playInTurn (r : Runner) (p : Pool) : List Nat → Exec Pool
  | [] => pure p
  | place :: rest => do
    let p ← r.play p (wholeRun (← readTime) place)
    playInTurn r p rest

/-- Runs the suites of files; the results are in the order in which the suites end. -/
def runFiles (r : Runner) (paths : List String) (limit : Nat) : Exec (List SuiteResult) := do
  let p ← Pool.opening paths limit
  let p ← r.playInTurn p (List.range paths.length)
  return p.results

end Runner

end Assay
