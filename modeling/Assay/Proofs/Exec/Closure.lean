/- digest: What parts of a run have: a property of computations that the single operations have and
   that lasts when computations are put together belongs to everything that is built from them. -/

import Assay.Proofs.Exec.Completion
import Assay.Proofs.Token.Scope
import Assay.Run.Step

set_option autoImplicit false
set_option relaxedAutoImplicit false

namespace Assay

theorem Assertion.ignoresLog_execute (a : Assertion) : Token.IgnoresLog a.execute := by
  intro c lines processVariable
  have operand (v : Json) := Token.ignoresLog_resolveValue v c lines processVariable
  simp only at operand
  simp only [Assertion.execute, operand]

namespace Exec

private def reply (request : Http.Request) : Except String Http.Response → Exec Http.Response
  | .ok response => pure response
  | .error text => complain (request.method ++ " " ++ request.url ++ " failed: " ++ text)

def receive (request : Http.Request) (delay : Nat) (answer : Except String Http.Response) :
    Exec Http.Response :=
  if delay ≠ 0 then do
    waitTo ((← get).now + delay)
    reply request answer
  else reply request answer

theorem send_eq (request : Http.Request) : send request = (do
    let w ← surroundings
    let before := (← get).sent
    modify fun s => { s with sent := before ++ [request] }
    receive request (w.latency before request) (w.transport before request)) := rfl

/-- An answer is passed on or a fault, after some time or none. -/
theorem receive_induction {P : Exec Http.Response → Prop} (pure : ∀ response, P (pure response))
    (fault : ∀ f, P (fault f))
    (wait : ∀ x delay, P x → P (get >>= fun s => waitTo (s.now + delay) >>= fun _ => x))
    (request : Http.Request) (delay : Nat) (answer : Except String Http.Response) :
    P (receive request delay answer) := by
  have replied : P (reply request answer) := by
    cases answer with
    | ok response => exact pure response
    | error text => exact fault _
  unfold receive
  split
  · exact wait _ delay replied
  · exact replied

/-- A property of computations that do no more than to look and to log. It lasts when they follow
each other. -/
structure Plain (P : ∀ α : Type, Exec α → Prop) : Prop where
  pure : ∀ {α : Type} (a : α), P α (pure a)
  fault : ∀ {α : Type} (f : Fault), P α (fault f)
  bind : ∀ {α β : Type} {x : Exec α} {f : α → Exec β}, P α x → (∀ a, P β (f a)) → P β (x >>= f)
  attempt : ∀ {α : Type} {x : Exec α}, P α x → P _ (attempt x)
  /-- Neither the transport nor the templates nor the bound of the depth is read. -/
  reading : ∀ {α : Type} {f : Surroundings → Exec α},
    (∀ w T C n, f { w with transport := T, templates := C, depth := n } = f w) → (∀ w, P α (f w)) →
      P α (surroundings >>= f)
  resolving : ∀ {α : Type} {r : Scope → Token.Resolution α}, Token.IgnoresLog r → P α (resolving r)

namespace Plain

variable {P : ∀ α : Type, Exec α → Prop} {α β : Type}

theorem complain (hP : Plain P) (text : String) : P α (complain text) := hP.fault _

theorem ofDefinition (hP : Plain P) (r : Except DefinitionError α) : P α (ofDefinition r) := by
  cases r with
  | ok a => exact hP.pure a
  | error e => exact hP.fault _

theorem naming (hP : Plain P) {x : Exec α} (hx : P α x) (text : String) : P α (naming text x) := by
  refine hP.bind (hP.attempt hx) fun r => ?_
  cases r with
  | ok a => exact hP.pure a
  | error f => exact hP.fault _

theorem inTurn (hP : Plain P) {run : β → Exec α} {l : List β} (h : ∀ b ∈ l, P α (run b)) :
    P _ (inTurn run l) := by
  induction l with
  | nil => exact hP.pure []
  | cons b rest ih =>
    refine hP.bind (h b List.mem_cons_self) fun a => ?_
    exact hP.bind (ih fun b' hb' => h b' (List.mem_cons_of_mem b hb')) fun _ => hP.pure _

theorem readPath (hP : Plain P) (text : String) : P _ (readPath text) := by
  unfold Exec.readPath
  split
  · exact hP.pure _
  · exact hP.fault _

theorem resolveValue (hP : Plain P) (v : Json) : P _ (resolveValue v) :=
  hP.resolving (Token.ignoresLog_resolveValue v)

theorem resolveText (hP : Plain P) (text : String) : P _ (resolveText text) :=
  hP.resolving (Token.ignoresLog_resolveText text)

theorem check (hP : Plain P) (a : Assertion) : P _ (check a) := hP.resolving a.ignoresLog_execute

theorem readMilliseconds (hP : Plain P) (v : Json) (what : String) :
    P _ (readMilliseconds v what) := by
  refine hP.bind (hP.resolveValue v) fun v => ?_
  split
  · exact hP.pure _
  · exact hP.complain _

private theorem readQuery (hP : Plain P) (query : Members Json) : P _ (readQuery query) := by
  induction query with
  | nil => exact hP.pure _
  | cons e rest ih => exact hP.bind (hP.resolveValue e.2) fun _ => hP.bind ih fun _ => hP.pure _

theorem buildUrl (hP : Plain P) (url : String) (query : Members Json) :
    P _ (buildUrl url query) := by
  unfold Exec.buildUrl
  split
  · exact hP.complain _
  · split
    · exact hP.pure _
    · split
      · exact hP.complain _
      · exact hP.bind (hP.readQuery query) fun _ => hP.pure _

theorem readHeaders (hP : Plain P) (headers : Members Json) : P _ (readHeaders headers) := by
  induction headers with
  | nil => exact hP.pure _
  | cons e rest ih => exact hP.bind (hP.resolveValue e.2) fun _ => hP.bind ih fun _ => hP.pure _

private theorem readFile (hP : Plain P) (path : String) : P _ (readFile path) := by
  refine hP.reading (fun _ _ _ _ => rfl) fun w => ?_
  split
  · exact hP.pure _
  · exact hP.complain _

private theorem locate (hP : Plain P) (file : String) : P _ (locate file) :=
  hP.reading (fun _ _ _ _ => rfl) fun _ => hP.bind (hP.resolveText file) fun _ => hP.pure _

private theorem readFormFiles (hP : Plain P) (files : Members String) :
    P _ (readFormFiles files) := by
  induction files with
  | nil => exact hP.pure _
  | cons e rest ih =>
    refine hP.bind (hP.locate e.2) fun path => hP.bind (hP.readFile path) fun content => ?_
    exact hP.bind ih fun _ => hP.pure _

private theorem readBody (hP : Plain P) (body : Option Json) : P _ (readBody body) := by
  cases body with
  | none => exact hP.pure _
  | some v => exact hP.bind (hP.resolveValue v) fun _ => hP.pure _

private theorem readContentType (hP : Plain P) (type : Option String) :
    P _ (readContentType type) := by
  cases type with
  | none => exact hP.pure _
  | some type => exact hP.bind (hP.resolveText type) fun _ => hP.pure _

private theorem buildBody (hP : Plain P) (call : Http.Call) (asked : Option String)
    (headers : Http.Headers) : P _ (buildBody call asked headers) := by
  unfold Exec.buildBody
  split
  · have form (fields : List (String × String)) : P _ (do
        let files ← Exec.readFormFiles call.formFiles
        Pure.pure (Http.Body.form fields files, headers)) :=
      hP.bind (hP.readFormFiles _) fun _ => hP.pure _
    refine hP.bind (hP.readBody _) fun v => ?_
    dsimp only
    split
    · exact hP.bind (hP.pure _) form
    · exact hP.bind (hP.pure _) form
    · exact hP.bind (hP.pure _) form
    · exact hP.bind (hP.complain _) form
  · split
    · exact hP.bind (hP.locate _) fun _ => hP.bind (hP.readFile _) fun _ => hP.pure _
    · exact hP.bind (hP.readBody _) fun _ => hP.pure _

theorem buildRequest (hP : Plain P) (call : Http.Call) : P _ (buildRequest call) := by
  refine hP.bind (hP.resolveText _) fun method => hP.bind (hP.resolveText _) fun url => ?_
  refine hP.bind (hP.buildUrl _ _) fun url => hP.bind (hP.readHeaders _) fun headers => ?_
  refine hP.bind (hP.readContentType _) fun asked => ?_
  exact hP.bind (hP.buildBody _ _ _) fun _ => hP.pure _

end Plain

/-- A property of plain work, and of what takes time besides. -/
structure Quiet (P : ∀ α : Type, Exec α → Prop) : Prop extends Plain P where
  readClock : P _ readClock
  pause : ∀ milliseconds, P _ (pause milliseconds)
  giveWay : P _ giveWay
  send : ∀ request, P _ (send request)

theorem Quiet.wait {P : ∀ α : Type, Exec α → Prop} (hP : Quiet P)
    (body : List Step → Exec (List StepResult)) (frame : StepFrame) (duration : Json) :
    P _ ((Step.wait frame duration).work body) := by
  refine hP.bind (hP.readMilliseconds _ _) fun milliseconds => ?_
  exact hP.bind (hP.pause _) fun _ => hP.pure _

theorem Quiet.of_forall {P : ∀ α : Type, Exec α → Prop} (h : ∀ α x, P α x) : Quiet P where
  pure _ := h _ _
  fault _ := h _ _
  bind _ _ := h _ _
  attempt _ := h _ _
  reading _ _ := h _ _
  resolving _ := h _ _
  readClock := h _ _
  pause _ := h _ _
  giveWay := h _ _
  send _ := h _ _

/-- A property of plain work, and of writes to one's own variables besides. Nothing is taken from
their log. -/
structure Writing (P : ∀ α : Type, Exec α → Prop) : Prop extends Plain P where
  write : ∀ p v, P _ (write p v)
  writeRoot : ∀ name v, P _ (writeRoot name v)
  /-- The log is not read. -/
  recalling : ∀ {α : Type} {f : Context → Exec α}, (∀ c lines, f { c with log := lines } = f c) →
    (∀ c, P α (f c)) → P α (context >>= f)
  restore : ∀ p old, P _ (Each.restore p old)

namespace Writing

variable {P : ∀ α : Type, Exec α → Prop}

private theorem place (hP : Writing P) (parameters : Members Json) :
    P _ (Use.place parameters) := by
  induction parameters with
  | nil => exact hP.pure _
  | cons e rest ih => exact hP.bind (hP.write _ _) fun _ => ih

theorem saveAll (hP : Writing P) (label : String) (changes : Changes) (save : Members Json) :
    P _ (Step.saveAll label changes save) := by
  induction save generalizing changes with
  | nil => exact hP.pure _
  | cons e rest ih =>
    have target : P _ (Step.readTarget label e.1) := by
      unfold Step.readTarget
      split
      · exact hP.bind (hP.resolveText _) fun _ => hP.naming (hP.readPath _) _
      · exact hP.bind (hP.pure _) fun _ => hP.naming (hP.readPath _) _
    refine hP.bind target fun p => hP.bind (hP.resolveValue _) fun v => ?_
    exact hP.bind (hP.write p v) fun change => ih _

theorem checks (hP : Writing P) (checks : List Assertion) : P _ (Exec.inTurn Exec.check checks) :=
  hP.inTurn fun a _ => hP.check a

end Writing

/-- A property of whatever work on one's own variables is built from, time included. -/
structure Working (P : ∀ α : Type, Exec α → Prop) : Prop extends Quiet P, Writing P

theorem Working.call {P : ∀ α : Type, Exec α → Prop} (hP : Working P) (call : Http.Call) :
    P _ call.run := by
  refine hP.bind (hP.buildRequest call) fun request => hP.bind (hP.send request) fun _ => ?_
  exact hP.bind (hP.writeRoot _ _) fun _ => hP.pure _

/-- A property of writing work, of work on other variables, and of what is done to one's own log. -/
structure Nested (P : ∀ α : Type, Exec α → Prop) : Prop extends Writing P where
  apart : ∀ {α : Type} {x : Exec α} (c : Context), P α x → P _ (apart c x)
  context : P _ context
  addLines : ∀ {α : Type} {x : Exec α} (lines : List String), P α x →
    P α (Exec.context >>= fun c => setContext (c.logLines lines) >>= fun _ => x)
  takeLog : P _ takeLog

namespace Nested

variable {P : ∀ α : Type, Exec α → Prop}

theorem enter (hP : Nested P) (parameters : Members Json) : P _ (Use.enter parameters) :=
  hP.bind hP.context fun _ => hP.bind (hP.apart _ (hP.place parameters)) fun _ => hP.pure _

theorem deliver (hP : Nested P) (inside : Context) (outputs : Members Json) (changes : Changes)
    (output : Members Json) : P _ (Use.deliver inside outputs changes output) := by
  induction output generalizing inside outputs changes with
  | nil => exact hP.pure _
  | cons e rest ih =>
    refine hP.bind (hP.apart _ (hP.resolveValue _)) fun r => hP.bind (hP.readPath _) fun p => ?_
    exact hP.bind (hP.write p _) fun change => ih _ _ _

theorem complete (hP : Nested P) (frame : StepFrame) (outcome : Outcome) :
    P _ (Step.complete frame outcome) := by
  refine hP.bind (hP.saveAll _ _ _) fun changes => hP.bind (hP.checks _) fun findings => ?_
  exact hP.bind hP.takeLog fun logs => hP.pure _

theorem of_forall (h : ∀ α x, P α x) : Nested P where
  toPlain := (Quiet.of_forall h).toPlain
  write _ _ := h _ _
  writeRoot _ _ := h _ _
  recalling _ _ := h _ _
  restore _ _ := h _ _
  apart _ _ := h _ _
  context := h _ _
  addLines _ _ := h _ _
  takeLog := h _ _

end Nested

end Exec

end Assay
