/- digest: The headers of a built request: its own in order, with the type of content that was asked
   for in the place of any of them, and where none was asked for, with that of the body behind them.
   -/

import Assay.Proofs.Exec.Suspension
import Assay.Proofs.Template.Use

set_option autoImplicit false
set_option relaxedAutoImplicit false

namespace Assay

open Exec

private theorem Resolves.of_sameRoots {c d : Context} {processVariable : String → Option String}
    {expressions values : Members Json} (same : c.SameRoots d)
    (h : Resolves ⟨d, processVariable⟩ expressions values) :
    Resolves ⟨c, processVariable⟩ expressions values :=
  h.imp fun _ _ own => ⟨own.1, own.2.imp fun _ run =>
    (Token.resolveValue_congr same.1 same.2 _).symm.trans run⟩

namespace Http

def isNamed (name : String) (h : String × String) : Bool := Text.sameIgnoringPlainCase h.1 name

/-- No two names are the same but for their case. -/
def NamesApart (names : List String) : Prop :=
  names.Pairwise fun a b => Text.sameIgnoringPlainCase a b = false

instance (names : List String) : Decidable (NamesApart names) :=
  inferInstanceAs (Decidable (List.Pairwise _ _))

private theorem isContentType_eq : isContentType = isNamed contentTypeName := rfl

private theorem same_iff {a b : String} :
    Text.sameIgnoringPlainCase a b = true ↔ a.toList.map Text.lowerPlain = b.toList.map Text.lowerPlain :=
  beq_iff_eq

private theorem same_of_same {a b name : String} (first : Text.sameIgnoringPlainCase a name = true)
    (second : Text.sameIgnoringPlainCase b name = true) : Text.sameIgnoringPlainCase a b = true :=
  same_iff.mpr ((same_iff.mp first).trans (same_iff.mp second).symm)

private theorem filter_isNamed {headers : Headers} (apart : NamesApart (headers.map (·.1)))
    {h : String × String}
    (inside : h ∈ headers) {name : String} (named : isNamed name h = true) :
    headers.filter (isNamed name) = [h] := by
  induction headers with
  | nil => cases inside
  | cons first rest ih =>
    rw [NamesApart, List.map_cons, List.pairwise_cons] at apart
    obtain ⟨fresh, apart⟩ := apart
    have differs (other : String × String) (ho : other ∈ rest) :
        ¬ Text.sameIgnoringPlainCase first.1 other.1 = true :=
      Bool.eq_false_iff.mp (fresh _ (List.mem_map_of_mem ho))
    rcases List.mem_cons.mp inside with rfl | later
    · rw [List.filter_cons_of_pos named]
      refine congrArg (h :: ·) (List.filter_eq_nil_iff.mpr fun other ho again => ?_)
      exact differs other ho (same_of_same named again)
    · have unnamed : ¬ isNamed name first = true := fun also => differs h later (same_of_same also named)
      rw [List.filter_cons_of_neg unnamed]
      exact ih apart later

def Body.type? : Body → Option String
  | .json _ => some "application/json"
  | .bytes _ => some "application/octet-stream"
  | .empty => none
  | .text _ => none
  | .form _ _ => none

def Body.typeHeader (body : Body) :
    Headers := body.type?.toList.map fun type => (contentTypeName, type)

private def withType (own : Headers) (asked : Option String) (body : Body) : Headers :=
  match asked with
  | some type => setContentType type own
  | none => own ++ body.typeHeader

/-- What a list of headers is that was made from own headers, a type of content that was asked for,
and a body. -/
structure MadeOf (own : Headers) (asked : Option String) (body : Body) (headers : Headers) :
    Prop where
  /-- All headers but the type of content are the own ones in order. -/
  others : headers.filter (!isContentType ·) = own.filter (!isContentType ·)
  /-- Each of these is the only one of its name. -/
  once : ∀ h ∈ own, isContentType h = false → headers.filter (isNamed h.1) = [h]
  /-- A type of content that is asked for is the only one. -/
  replaced : ∀ type, asked = some type → headers.filter isContentType = [(contentTypeName, type)]
  /-- Where none is asked for, that of the body comes behind the own one. -/
  added : asked = none → headers.filter isContentType = own.filter isContentType ++ body.typeHeader
  /-- There are two exactly where none is asked for and there is an own one besides that of the
  body. -/
  single : (headers.filter isContentType).length ≤ 1 ↔
    ¬ (asked = none ∧ own.any isContentType = true ∧ body.type?.isSome = true)

private theorem isContentType_typed (type : String) :
    isContentType (contentTypeName, type) = true :=
  same_iff.mpr rfl

private theorem filter_others_withType (own : Headers) (asked : Option String) (body : Body) :
    (withType own asked body).filter (!isContentType ·) = own.filter (!isContentType ·) := by
  cases asked with
  | some type => simp [withType, setContentType, isContentType_typed]
  | none => cases kind : body.type? <;> simp [withType, Body.typeHeader, kind, isContentType_typed]

private theorem filter_setContentType (type : String) (own : Headers) :
    (setContentType type own).filter isContentType = [(contentTypeName, type)] := by
  simp [setContentType, isContentType_typed]

private theorem filter_append_typeHeader (own : Headers) (body : Body) :
    (own ++ body.typeHeader).filter isContentType = own.filter isContentType ++ body.typeHeader := by
  cases kind : body.type? <;> simp [Body.typeHeader, kind, isContentType_typed]

private theorem length_typeHeader (body : Body) :
    body.typeHeader.length = if body.type?.isSome then 1 else 0 := by
  cases kind : body.type? <;> simp [Body.typeHeader, kind]

private theorem length_filter_isContentType {own : Headers} (apart : NamesApart (own.map (·.1))) :
    (own.filter isContentType).length = if own.any isContentType then 1 else 0 := by
  by_cases present : own.any isContentType = true
  · obtain ⟨h, inside, typed⟩ := List.any_eq_true.mp present
    rw [if_pos present, isContentType_eq, filter_isNamed apart inside typed, List.length_singleton]
  · rw [if_neg present, List.length_eq_zero_iff, List.filter_eq_nil_iff]
    exact fun h inside typed => present (List.any_eq_true.mpr ⟨h, inside, typed⟩)

private theorem madeOf_withType {own : Headers} (apart : NamesApart (own.map (·.1)))
    (asked : Option String)
    (body : Body) : MadeOf own asked body (withType own asked body) where
  others := filter_others_withType own asked body
  once := by
    intro h inside other
    -- What has the name of another header is no type of content.
    have narrowed (headers : Headers) :
        (headers.filter (!isContentType ·)).filter (isNamed h.1) = headers.filter (isNamed h.1) := by
      rw [List.filter_filter]
      refine List.filter_congr fun again _ => Bool.and_eq_left_iff_imp.mpr fun named => ?_
      rw [Bool.not_eq_true', Bool.eq_false_iff]
      intro typed
      exact Bool.eq_false_iff.mp other (same_iff.mpr ((same_iff.mp named).symm.trans (same_iff.mp typed)))
    rw [← narrowed, filter_others_withType, narrowed, filter_isNamed apart inside (same_iff.mpr rfl)]
  replaced := by
    rintro type rfl
    exact filter_setContentType type own
  added := by
    rintro rfl
    exact filter_append_typeHeader own body
  single := by
    cases asked with
    | some type => simp [withType, filter_setContentType]
    | none =>
      rw [withType, filter_append_typeHeader, List.length_append, length_filter_isContentType apart,
        length_typeHeader]
      cases own.any isContentType <;> cases body.type?.isSome <;> decide

variable {w : Surroundings} {s t : RunState}

/-- The type of content that a call asks for: the text that its field comes to, unless that is
empty. -/
def Call.AsksFor (scope : Scope) (call : Call) (asked : Option String) : Prop :=
  match call.contentType with
  | none => asked = none
  | some written => ∃ text lines, Token.resolveText scope written = .ok ⟨text, lines⟩ ∧
      asked = if text.isEmpty then none else some text

private theorem readHeaders_eq_ok {headers : Members Json} {read : Headers}
    (h : readHeaders headers w s = (.ok read, t)) :
    ∃ values, Resolves (scope w s) headers values ∧ read = values.map (fun v => (v.1, v.2.plainText)) ∧
      s.context.SameRoots t.context := by
  induction headers generalizing read s with
  | nil =>
    obtain ⟨rfl, rfl⟩ := pure_eq_ok.mp h
    exact ⟨[], .nil, rfl, .refl _⟩
  | cons e rest ih =>
    obtain ⟨name, expression⟩ := e
    simp only [readHeaders, bind_eq_ok] at h
    obtain ⟨v, _, hvalue, others, u, hrest, hend⟩ := h
    obtain ⟨lines, value, rfl⟩ := resolving_eq_ok.mp hvalue
    obtain ⟨rfl, rfl⟩ := pure_eq_ok.mp hend
    obtain ⟨values, resolves, rfl, same⟩ := ih hrest
    have unlogged : s.context.SameRoots (s.context.logLines lines) := ⟨rfl, rfl⟩
    exact ⟨(name, v) :: values, .cons ⟨rfl, lines, value⟩ (Resolves.of_sameRoots unlogged resolves), rfl, same⟩

private theorem readContentType_eq_ok {call : Call} {asked : Option String}
    (h : readContentType call.contentType w s = (.ok asked, t)) : call.AsksFor (scope w s) asked := by
  unfold Call.AsksFor
  cases given : call.contentType with
  | none =>
    rw [given] at h
    exact (pure_eq_ok.mp h).1.symm
  | some written =>
    rw [given, readContentType, bind_eq_ok] at h
    obtain ⟨text, u, htext, hend⟩ := h
    obtain ⟨lines, value, rfl⟩ := resolving_eq_ok.mp htext
    exact ⟨text, lines, value, (pure_eq_ok.mp hend).1.symm⟩

private theorem Call.AsksFor.of_sameRoots {c d : Context} {processVariable : String → Option String}
    {call : Call}
    {asked : Option String} (same : c.SameRoots d) (h : call.AsksFor ⟨d, processVariable⟩ asked) :
    call.AsksFor ⟨c, processVariable⟩ asked := by
  simpa only [Call.AsksFor, Token.resolveText, Token.resolve_congr same.1 same.2] using h

/-- Headers behind which a body puts its type, unless another was asked for. -/
private def addTypeOf (body : Body) (asked : Option String) (headers : Headers) : Headers :=
  match body.type? with
  | some type => addContentType asked type headers
  | none => headers

private theorem addTypeOf_chosen (own : Headers) (asked : Option String) (body : Body) :
    addTypeOf body asked (match asked with
      | some type => setContentType type own
      | none => own) = withType own asked body := by
  cases asked <;> cases kind : body.type? <;>
    simp [addTypeOf, withType, addContentType, Body.typeHeader, kind]

private theorem chooseBody_headers (asked : Option String) (headers : Headers)
    (value : Option Json) :
    (chooseBody asked headers value).2 = addTypeOf (chooseBody asked headers value).1 asked headers := by
  unfold chooseBody
  split
  · rfl
  · rfl
  · split <;> rfl
  · rfl

private theorem gives_buildBody (call : Call) (asked : Option String) (headers : Headers) :
    Gives (fun r => r.2 = addTypeOf r.1 asked headers) (buildBody call asked headers) := by
  unfold buildBody
  split
  · have form (fields : List (String × String)) : Gives (fun r => r.2 = addTypeOf r.1 asked headers) (do
        let files ← readFormFiles call.formFiles
        pure (Body.form fields files, headers)) :=
      gives_bind fun _ => gives_pure rfl
    refine gives_bind fun value => ?_
    dsimp only
    split
    · exact gives_bind form
    · exact gives_bind form
    · exact gives_bind form
    · exact gives_bind form
  · split
    · exact gives_bind fun path => gives_bind fun content => gives_pure rfl
    · exact gives_bind fun value => gives_pure (chooseBody_headers asked headers value)

private theorem buildRequest_eq_ok {call : Call} {request : Request}
    (h : buildRequest call w s = (.ok request, t)) :
    ∃ asked values, call.AsksFor (scope w s) asked ∧ Resolves (scope w s) call.headers values ∧
      request.headers = withType (values.map fun v => (v.1, v.2.plainText)) asked request.body := by
  simp only [buildRequest, bind_eq_ok] at h
  obtain ⟨method, s₁, h₁, raw, s₂, h₂, url, s₃, h₃, read, s₄, h₄, asked, s₅, h₅, ⟨body, headers⟩, s₆, h₆,
    hend⟩ := h
  have blind := Context.SameRoots.logBlind s.context
  have start := Context.SameRoots.refl s.context
  have quiet := quiet_keeps blind
  have before : s.context.SameRoots s₃.context :=
    (quiet.buildUrl raw call.query).of_run ((quiet.resolveText call.url).of_run
      ((quiet.resolveText call.method).of_run start h₁) h₂) h₃
  have between := (quiet.readHeaders call.headers).of_run before h₄
  obtain ⟨values, resolves, rfl, -⟩ := readHeaders_eq_ok h₄
  have asks := readContentType_eq_ok h₅
  obtain ⟨rfl, -⟩ := pure_eq_ok.mp hend
  have whole := gives_buildBody call asked _ _ _ _ _ h₆
  exact ⟨asked, values, asks.of_sameRoots between, resolves.of_sameRoots before,
    whole.trans (addTypeOf_chosen _ asked body)⟩

/-- A request has the own headers of its step, each once and in order, and one type of content: that
which was asked for, or else the own one or that of the body. Only where none is asked for, an own
one stays beside that of the body. -/
theorem headers_of_request {call : Call} {request : Request}
    (apart : NamesApart (Members.names call.headers))
    (h : buildRequest call w s = (.ok request, t)) :
    ∃ asked values, call.AsksFor (scope w s) asked ∧ Resolves (scope w s) call.headers values ∧
      MadeOf (values.map fun v => (v.1, v.2.plainText)) asked request.body request.headers := by
  obtain ⟨asked, values, asks, resolves, made⟩ := buildRequest_eq_ok h
  have named : (values.map fun v => (v.1, v.2.plainText)).map (·.1) = Members.names call.headers := by
    rw [← resolves.names, Members.names, List.map_map]
    rfl
  rw [made]
  exact ⟨asked, values, asks, resolves, madeOf_withType (by rwa [named]) asked request.body⟩

/-- An own type of content in small letters, a header with a token in it, and a body that is an
object. -/
def report (contentType : Option String) : Call :=
  { method := "post", url := "http://svc", query := [],
    headers := [("content-type", .string "text/plain"), ("X-Id", .string "{{$.ctx.id}}")],
    body := some (.object [("a", .nat 1)]), file := none, formFiles := [], contentType }

def reporting : RunState :=
  { RunState.initial with context := Context.empty.putRoot Context.ctxRoot (.object [("id", .nat 7)]) }

/-- A type of content that is asked for takes the place of the own one. -/
theorem asked_type_replaces_own : NamesApart (Members.names (report (some "text/csv")).headers) ∧
    ∃ request t, buildRequest (report (some "text/csv")) (.still .empty) reporting = (.ok request, t) ∧
      request.headers = [("X-Id", "7"), ("Content-Type", "text/csv")] ∧
      ∃ asked values, (report (some "text/csv")).AsksFor (scope (.still .empty) reporting) asked ∧
        Resolves (scope (.still .empty) reporting) (report (some "text/csv")).headers values ∧
        MadeOf (values.map fun v => (v.1, v.2.plainText)) asked request.body request.headers := by
  have apart : NamesApart (Members.names (report (some "text/csv")).headers) := by decide
  have evaluated : (buildRequest (report (some "text/csv"))).yields
      (fun r => r.headers == [("X-Id", "7"), ("Content-Type", "text/csv")]) (.still .empty) reporting = true := by
    decide +kernel
  obtain ⟨request, t, run, made⟩ := exists_of_yields evaluated
  exact ⟨apart, request, t, run, eq_of_beq made, headers_of_request apart run⟩

/-- Where none is asked for, the own one is sent, and that of the body as well. -/
theorem own_type_beside_json : NamesApart (Members.names (report none).headers) ∧
    ∃ request t, buildRequest (report none) (.still .empty) reporting = (.ok request, t) ∧
      request.headers.filter isContentType =
        [("content-type", "text/plain"), ("Content-Type", "application/json")] ∧
      ¬ (request.headers.filter isContentType).length ≤ 1 := by
  have evaluated : (buildRequest (report none)).yields (fun r => r.headers.filter isContentType ==
      [("content-type", "text/plain"), ("Content-Type", "application/json")]) (.still .empty) reporting =
      true := by
    decide +kernel
  obtain ⟨request, t, run, made⟩ := exists_of_yields evaluated
  have twice := eq_of_beq made
  exact ⟨by decide, request, t, run, twice, by simp [twice]⟩

end Http

end Assay
