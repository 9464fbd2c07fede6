/- digest: A run depends on its transport by the answers alone that it gets: two transports make no
   difference up to the first request that they answer differently. -/

import Assay.Proofs.Exec.Pervasive

set_option autoImplicit false
set_option relaxedAutoImplicit false

namespace Assay.Exec

variable {α β : Type}

/-- Two runs are equal, or both make one request after the same requests before, and what two
transports answer there differs. -/
private def AgreeOrPart (transport other : Http.Transport) (start : List Http.Request)
    (r r' : Except Stop α × RunState) : Prop :=
  r = r' ∨ ∃ before request, start <+: before ∧ before ++ [request] <+: r.2.sent ∧
    before ++ [request] <+: r'.2.sent ∧ transport before request ≠ other before request

/-- A computation takes back no request, and with another transport it does the same up to the first
request that this one answers differently. -/
structure Causal (x : Exec α) : Prop where
  grows : ∀ w s, s.sent <+: (x w s).2.sent
  parts : ∀ w s other,
    AgreeOrPart w.transport other s.sent (x w s) (x { w with transport := other } s)

variable {x : Exec α} {f : α → Exec β}

private theorem causal_of_end {r : Surroundings → RunState → Except Stop α}
    {next : Surroundings → RunState → RunState} (h : ∀ w s, x w s = (r w s, next w s))
    (hsent : ∀ w s, (next w s).sent = s.sent)
    (hread : ∀ w s other, x { w with transport := other } s = x w s) : Causal x where
  grows w s := by
    rw [h]
    exact (hsent w s).symm ▸ List.prefix_rfl
  parts w s other := Or.inl (hread w s other).symm

private theorem causal_pure (a : α) : Causal (pure a) :=
  causal_of_end (pure_run a) (fun _ _ => rfl) fun _ _ _ => rfl

private theorem causal_throw (e : Stop) : Causal (throw e : Exec α) :=
  causal_of_end (throw_run e) (fun _ _ => rfl) fun _ _ _ => rfl

private theorem causal_modify {g : RunState → RunState} (h : ∀ s, (g s).sent = s.sent) :
    Causal (modify g : Exec PUnit) :=
  causal_of_end (modify_run g) (fun _ s => h s) fun _ _ _ => rfl

private theorem Causal.bind (hx : Causal x) (hf : ∀ a, Causal (f a)) : Causal (x >>= f) where
  grows w s := by
    have first := hx.grows w s
    rcases h : x w s with ⟨(e | a), u⟩
    · rw [bind_of_error h]
      rwa [h] at first
    · rw [bind_of_ok h]
      rw [h] at first
      exact first.trans ((hf a).grows w u)
  parts w s other := by
    rcases hx.parts w s other with same | ⟨before, request, started, own, theirs, differ⟩
    · rcases h : x w s with ⟨(e | a), u⟩
      · exact Or.inl ((bind_of_error h).trans (bind_of_error (same.symm.trans h)).symm)
      · have first := hx.grows w s
        rw [bind_of_ok h, bind_of_ok (same.symm.trans h)]
        rw [h] at first
        rcases (hf a).parts w u other with same | ⟨before, request, started, both⟩
        · exact Or.inl same
        · exact Or.inr ⟨before, request, first.trans started, both⟩
    · -- What comes after only adds to the requests.
      have onward (w' : Surroundings) : (x w' s).2.sent <+: ((x >>= f) w' s).2.sent := by
        rcases h : x w' s with ⟨(e | a), u⟩
        · exact (bind_of_error h : (x >>= f) w' s = _) ▸ List.prefix_rfl
        · rw [bind_of_ok h]
          exact (hf a).grows w' u
      exact Or.inr ⟨before, request, started, own.trans (onward w), theirs.trans (onward _), differ⟩

private theorem AgreeOrPart.onward {transport other : Http.Transport} {start : List Http.Request}
    {r r' : Except Stop α × RunState} (h : AgreeOrPart transport other start r r')
    {q q' : Except Stop β × RunState} (hsent : q.2.sent = r.2.sent) (hsent' : q'.2.sent = r'.2.sent)
    (hsame : r = r' → q = q') : AgreeOrPart transport other start q q' := by
  rcases h with same | ⟨before, request, started, own, theirs, differ⟩
  · exact Or.inl (hsame same)
  · refine Or.inr ⟨before, request, started, ?_, ?_, differ⟩
    · rwa [hsent]
    · rwa [hsent']

private theorem sent_attempt (x : Exec α) (w : Surroundings) (s : RunState) :
    (attempt x w s).2.sent = (x w s).2.sent := by
  rcases h : x w s with ⟨(e | a), t⟩
  · cases e with
    | fault _ | breakdown _ | cancelled _ | exhausted => simp only [attempt, h]
  · simp only [attempt, h]

private theorem Causal.attempt (hx : Causal x) : Causal (attempt x) where
  grows w s := by
    rw [sent_attempt]
    exact hx.grows w s
  parts w s other := by
    refine (hx.parts w s other).onward (sent_attempt x _ s) (sent_attempt x _ s) fun same => ?_
    simp only [Exec.attempt, same]

private theorem sent_apart (c : Context) (x : Exec α) (w : Surroundings) (s : RunState) :
    (apart c x w s).2.sent = (x w { s with context := c }).2.sent := by
  rcases h : x w { s with context := c } with ⟨(e | a), t⟩
  · simp only [apart, h]
  · simp only [apart, h]

private theorem Causal.apart (hx : Causal x) (c : Context) : Causal (apart c x) where
  grows w s := by
    rw [sent_apart]
    exact hx.grows w { s with context := c }
  parts w s other := by
    refine (hx.parts w { s with context := c } other).onward (sent_apart c x _ s) (sent_apart c x _ s)
      fun same => ?_
    simp only [Exec.apart, same]

private theorem sent_underDeadline (deadline : Nat) (x : Exec α) (w : Surroundings) (s : RunState) :
    (underDeadline deadline x w s).2.sent =
      (x { w with deadlines := deadline :: w.deadlines } s).2.sent := by
  rcases h : x { w with deadlines := deadline :: w.deadlines } s with ⟨(e | a), t⟩
  · cases e with
    | fault _ | breakdown _ | exhausted => simp only [underDeadline, h]
    | cancelled loop =>
      cases loop with
      | zero | succ _ => simp only [underDeadline, h]
  · simp only [underDeadline, h]

private theorem Causal.underDeadline (hx : Causal x) (deadline : Nat) :
    Causal (underDeadline deadline x) where
  grows w s := by
    rw [sent_underDeadline]
    exact hx.grows { w with deadlines := deadline :: w.deadlines } s
  parts w s other := by
    refine (hx.parts { w with deadlines := deadline :: w.deadlines } s other).onward
      (sent_underDeadline deadline x _ s) (sent_underDeadline deadline x _ s) fun same => ?_
    simp only [Exec.underDeadline, same]

private theorem Causal.amid (hx : Causal x) (C : TemplateCatalog) (folder : String) :
    Causal (amid (fun w => { w with templates := C, folder := folder }) x) where
  grows w s := hx.grows { w with templates := C, folder := folder } s
  parts w s other := hx.parts { w with templates := C, folder := folder } s other

private theorem causal_surroundings_bind {f : Surroundings → Exec β}
    (hread : ∀ w other, f { w with transport := other } = f w) (hf : ∀ w, Causal (f w)) :
    Causal (surroundings >>= f) where
  grows w s := (hf w).grows w s
  parts w s other := by
    have own := (hf w).parts w s other
    have theirs : (surroundings >>= f) { w with transport := other } s =
        f w { w with transport := other } s := by
      rw [bind_of_ok (surroundings_run _ s), hread]
    rw [bind_of_ok (surroundings_run w s), theirs]
    exact own

private theorem causal_get : Causal (get : Exec RunState) :=
  causal_of_end get_run (fun _ _ => rfl) fun _ _ _ => rfl

private theorem causal_passTo (time : Nat) : Causal (passTo time) := causal_modify fun _ => rfl

private theorem causal_waitTo (time : Nat) : Causal (waitTo time) := by
  refine causal_surroundings_bind (fun _ _ => rfl) fun w => ?_
  split
  · exact causal_passTo time
  · exact (causal_passTo _).bind fun _ => causal_throw _

private theorem causal_readClock : Causal readClock := by
  let advance (w : Surroundings) (s : RunState) : RunState :=
    { s with now := s.now + w.pace s.readings, readings := s.readings + 1 }
  have read (w : Surroundings) (s : RunState) :
      readClock w s = (.ok (s.now + w.pace s.readings), advance w s) := rfl
  exact causal_of_end read (fun _ _ => rfl) fun _ _ _ => rfl

private theorem causal_receive (request : Http.Request) (delay : Nat)
    (answer : Except String Http.Response) :
    Causal (receive request delay answer) := by
  refine receive_induction causal_pure (fun _ => causal_throw _) (fun x delay hx => ?_) _ _ _
  exact causal_get.bind fun s => (causal_waitTo _).bind fun _ => hx

private theorem send_run (request : Http.Request) (w : Surroundings) (s : RunState) :
    send request w s =
      receive request (w.latency s.sent request) (w.transport s.sent request) w
        { s with sent := s.sent ++ [request] } := rfl

private theorem causal_send (request : Http.Request) : Causal (send request) where
  grows w s := by
    rw [send_run]
    exact (List.prefix_append _ [request]).trans
      ((causal_receive _ _ _).grows w { s with sent := s.sent ++ [request] })
  parts w s other := by
    rw [send_run, send_run]
    by_cases same : w.transport s.sent request = other s.sent request
    · have received := (causal_receive request (w.latency s.sent request)
        (w.transport s.sent request)).parts w { s with sent := s.sent ++ [request] } other
      dsimp only
      rw [← same]
      rcases received with equal | ⟨before, later, started, both⟩
      · exact Or.inl equal
      · exact Or.inr ⟨before, later, (List.prefix_append _ _).trans started, both⟩
    · refine Or.inr ⟨s.sent, request, List.prefix_rfl, ?_, ?_, same⟩
      · exact (causal_receive _ _ _).grows w { s with sent := s.sent ++ [request] }
      · exact (causal_receive _ _ _).grows { w with transport := other }
          { s with sent := s.sent ++ [request] }

theorem entire_causal : Entire fun _ x => Causal x where
  pure := causal_pure
  fault _ := causal_throw _
  exhausted := causal_throw _
  breakdown _ := causal_throw _
  bind := Causal.bind
  attempt := Causal.attempt
  apart c hx := hx.apart c
  underDeadline deadline hx := hx.underDeadline deadline
  context := causal_of_end context_run (fun _ _ => rfl) fun _ _ _ => rfl
  setContext c := causal_of_end (setContext_run c) (fun _ _ => rfl) fun _ _ _ => rfl
  reading hread hf := causal_surroundings_bind (fun w other => hread w other w.templates w.depth) hf
  consulting hread hf := causal_surroundings_bind (fun w other => hread w other w.depth) hf
  readClock := causal_readClock
  pause _ := causal_get.bind fun _ => causal_waitTo _
  giveWay := by
    refine causal_get.bind fun s => causal_surroundings_bind (fun _ _ => rfl) fun w => ?_
    split
    · exact causal_pure _
    · exact causal_throw _
  send := causal_send
  depth hf := causal_surroundings_bind (fun _ _ => rfl) fun w => hf w.depth
  amid C folder hx := hx.amid C folder

variable {w : Surroundings} {s : RunState} {other : Http.Transport}

/-- Transports that give the first answers alike are asked the same up to the request after them. -/
theorem Causal.sent_congr (hx : Causal x) {n : Nat}
    (h : ∀ before request, before.length < n → w.transport before request = other before request) :
    (x w s).2.sent[n]? = (x { w with transport := other } s).2.sent[n]? := by
  rcases hx.parts w s other with same | ⟨before, request, -, own, theirs, differ⟩
  · rw [same]
  · have reached : n < (before ++ [request]).length := by
      by_contra short
      refine differ (h before request ?_)
      simp only [List.length_append, List.length_singleton] at short
      omega
    rw [List.prefix_iff_getElem?.mp own n reached, List.prefix_iff_getElem?.mp theirs n reached]

/-- A transport that answers each request of a run as the one of the run makes no difference. -/
theorem Causal.run_congr (hx : Causal x)
    (h : ∀ before request, before ++ [request] <+: (x w s).2.sent →
      w.transport before request = other before request) :
    x w s = x { w with transport := other } s := by
  rcases hx.parts w s other with same | ⟨before, request, -, own, -, differ⟩
  · exact same
  · exact absurd (h before request own) differ

end Assay.Exec
