/- digest: Binding arguments to the parameters of a template: it succeeds exactly where every
   parameter has what it needs, keeps what is not declared, puts the parameters behind in the order
   of their declaration, and leaves its own results as they are. -/

import Assay.Proofs.Template.Frame
import Assay.Proofs.Text.Lowering

set_option autoImplicit false
set_option relaxedAutoImplicit false

namespace Assay

namespace Members

variable {α β : Type} {name : String}

private theorem get?_append (m more : Members α) :
    get? name (m ++ more) = (get? name m).or (get? name more) := by
  induction m with
  | nil => rfl
  | cons e m ih =>
    obtain ⟨k, v⟩ := e
    by_cases h : k = name <;> simp [get?, h, ih]

private theorem get?_of_not_mem {m : Members α} (h : name ∉ names m) : get? name m = none := by
  rw [← get?_isSome_iff] at h
  simpa using h

private theorem not_mem_of_get? {m : Members α} (h : get? name m = none) : name ∉ names m := by
  rw [← get?_isSome_iff, h]
  simp

private theorem erase_eq_filter {m : Members α} (nodup : (names m).Nodup) :
    erase name m = m.filter (·.1 ≠ name) := by
  induction m with
  | nil => rfl
  | cons e m ih =>
    obtain ⟨k, v⟩ := e
    simp only [names, List.map_cons, List.nodup_cons] at nodup
    by_cases h : k = name
    · subst h
      rw [erase, if_pos rfl, List.filter_cons_of_neg (by simp)]
      refine (List.filter_eq_self.mpr fun e he => decide_eq_true ?_).symm
      rintro rfl
      exact nodup.1 (List.mem_map_of_mem he)
    · simp [erase, h, ih nodup.2]

/-- The members whose names are none of these. -/
private def apart (others : List String) (m : Members α) : Members α := m.filter (·.1 ∉ others)

private theorem names_apart (others : List String) (m : Members α) :
    names (apart others m) = (names m).filter (· ∉ others) := by
  rw [names, apart, names, List.filter_map]
  rfl

private theorem get?_apart_of_not_mem {others : List String} (h : name ∉ others) (m : Members α) :
    get? name (apart others m) = get? name m := by
  induction m with
  | nil => rfl
  | cons e m ih =>
    obtain ⟨k, v⟩ := e
    simp only [apart, decide_not] at ih
    by_cases hk : k = name
    · subst hk
      simp [apart, h, get?]
    · by_cases inside : k ∈ others
      · simp [apart, inside, get?, hk, ih]
      · simp [apart, inside, get?, hk, ih]

private theorem get?_apart_of_mem {others : List String} (h : name ∈ others) (m : Members α) :
    get? name (apart others m) = none :=
  get?_of_not_mem (by simp [names_apart, h])

private theorem apart_append (others : List String) (m more : Members α) :
    apart others (m ++ more) = apart others m ++ apart others more := List.filter_append m more

private theorem apart_apart (others : List String) (m : Members α) :
    apart others (apart others m) = apart others m := by
  simp [apart]

private theorem apart_cons {m : Members α} (nodup : (names m).Nodup) (name : String)
    (others : List String) :
    apart (name :: others) m = apart others (erase name m) := by
  rw [apart, apart, erase_eq_filter nodup, List.filter_filter]
  refine List.filter_congr fun e _ => ?_
  simp [Bool.and_comm]

/-- The members that a function makes of others, under their names; it may leave some out. -/
private def drawn (f : String × β → Option α) (m : Members β) : Members α :=
  m.filterMap fun e => (f e).map (e.1, ·)

private theorem drawn_cons_none {f : String × β → Option α} {e : String × β} (h : f e = none)
    (m : Members β) :
    drawn f (e :: m) = drawn f m := by
  simp [drawn, h]

private theorem drawn_cons_some {f : String × β → Option α} {e : String × β} {v : α}
    (h : f e = some v)
    (m : Members β) : drawn f (e :: m) = (e.1, v) :: drawn f m := by
  simp [drawn, h]

private theorem names_drawn_sublist (f : String × β → Option α) (m : Members β) :
    (names (drawn f m)).Sublist (names m) := by
  induction m with
  | nil => exact .slnil
  | cons e m ih =>
    cases h : f e with
    | none =>
      rw [drawn_cons_none h]
      exact .cons _ ih
    | some v =>
      rw [drawn_cons_some h]
      exact .cons_cons _ ih

private theorem names_drawn {f : String × β → Option α} {m : Members β} {P : String → Prop}
    [DecidablePred P]
    (h : ∀ e ∈ m, (f e).isSome = true ↔ P e.1) : names (drawn f m) = (names m).filter P := by
  induction m with
  | nil => rfl
  | cons e m ih =>
    have first := h e List.mem_cons_self
    have rest := ih fun d hd => h d (List.mem_cons_of_mem e hd)
    simp only [names] at rest ⊢
    cases hf : f e with
    | none =>
      have left : ¬ P e.1 := fun holds => by simpa [hf] using first.mpr holds
      simp [drawn_cons_none hf, left, rest]
    | some v =>
      have taken : P e.1 := first.mp (by rw [hf]; rfl)
      simp [drawn_cons_some hf, taken, rest]

private theorem get?_drawn {f : String × β → Option α} {m : Members β} (nodup : (names m).Nodup)
    {b : β}
    (h : (name, b) ∈ m) : get? name (drawn f m) = f (name, b) := by
  induction m with
  | nil => cases h
  | cons e m ih =>
    simp only [names, List.map_cons, List.nodup_cons] at nodup
    rcases List.mem_cons.mp h with rfl | inside
    · have absent : get? name (drawn f m) = none :=
        get?_of_not_mem fun taken => nodup.1 ((names_drawn_sublist f m).subset taken)
      cases hf : f (name, b) with
      | none => rw [drawn_cons_none hf, absent]
      | some v => rw [drawn_cons_some hf, get?, if_pos rfl]
    · have other : e.1 ≠ name := by
        rintro rfl
        exact nodup.1 (List.mem_map.mpr ⟨_, inside, rfl⟩)
      cases hf : f e with
      | none => rw [drawn_cons_none hf, ih nodup.2 inside]
      | some v => rw [drawn_cons_some hf, get?, if_neg other, ih nodup.2 inside]

private theorem drawn_congr {f g : String × β → Option α} {m : Members β} (h : ∀ e ∈ m, f e = g e) :
    drawn f m = drawn g m :=
  List.filterMap_congr fun e he => by rw [h e he]

end Members

namespace Parameter

def admittedTypes : Members (List String) :=
  [("string", ["string", "integer", "number", "boolean"]), ("number", ["integer", "number"]),
    ("integer", ["integer"]), ("boolean", ["boolean"]), ("object", ["object"]), ("array", ["array"])]

def IsNamed (kind name : String) : Prop := Text.sameIgnoringPlainCase kind name = true

/-- A value is null, or of a type that its kind admits. A kind that is not known admits every value.
-/
def Admits (kind : String) (v : Json) : Prop :=
  v = .null ∨ ∀ e ∈ admittedTypes, IsNamed kind e.1 → v.typeName ∈ e.2

/-- Text spells a value of a kind. -/
inductive Spells (text : String) : String → Json → Prop
  | number {n : Number} : numberIn? text = some n → Spells text "number" (.number n)
  | integer {i : Int} : numberIn? text = some (.int i) → Spells text "integer" (.number (.int i))
  | truth {b : Bool} : boolIn? text = some b → Spells text "boolean" (.bool b)

/-- What a value becomes under a kind: it stays as it is where the kind admits it, and text becomes
the value that it spells. -/
def Converts (kind : String) (v u : Json) : Prop :=
  (Admits kind v ∧ u = v) ∨ ∃ text name, v = .string text ∧ IsNamed kind name ∧ Spells text name u

private theorem spells_iff {text name : String} {u : Json} : Spells text name u ↔
    (name = "number" ∧ ∃ n, numberIn? text = some n ∧ u = .number n) ∨
    (name = "integer" ∧ ∃ i, numberIn? text = some (.int i) ∧ u = .number (.int i)) ∨
    (name = "boolean" ∧ ∃ b, boolIn? text = some b ∧ u = .bool b) := by
  constructor
  · rintro (⟨h⟩ | ⟨h⟩ | ⟨h⟩)
    · exact .inl ⟨rfl, _, h, rfl⟩
    · exact .inr (.inl ⟨rfl, _, h, rfl⟩)
    · exact .inr (.inr ⟨rfl, _, h, rfl⟩)
  · rintro (⟨rfl, n, h, rfl⟩ | ⟨rfl, i, h, rfl⟩ | ⟨rfl, b, h, rfl⟩)
    · exact .number h
    · exact .integer h
    · exact .truth h

theorem checkedKinds_eq : checkedKinds = Members.names admittedTypes := rfl

private theorem isOwnForm_of_checked {e : String × List String} (h : e ∈ admittedTypes) :
    ∀ c ∈ e.1.toList, Text.isOwnForm c = true := by
  have plain : admittedTypes.all (fun e => e.1.toList.all Text.isOwnForm) = true := by decide
  exact List.all_eq_true.mp (List.all_eq_true.mp plain e h)

private theorem isNamed_iff {e : String × List String} (h : e ∈ admittedTypes) (kind : String) :
    IsNamed kind e.1 ↔ Text.lower kind = e.1 :=
  (Text.lower_eq_iff (isOwnForm_of_checked h) kind).symm

private theorem Spells.exists_types {text name : String} {u : Json} (h : Spells text name u) :
    ∃ types, (name, types) ∈ admittedTypes ∧ u.typeName ∈ types := by
  cases h with
  | @number n _ => exact ⟨["integer", "number"], by decide, by cases n <;> simp [Json.typeName]⟩
  | integer _ => exact ⟨["integer"], by decide, by simp [Json.typeName]⟩
  | truth _ => exact ⟨["boolean"], by decide, by simp [Json.typeName]⟩

private theorem fit?_eq_some_iff {e : String × List String} (h : e ∈ admittedTypes) {v u : Json} :
    fit? e.1 v = some u ↔
      ((v = .null ∨ v.typeName ∈ e.2) ∧ u = v) ∨ ∃ text, v = .string text ∧ Spells text e.1 u := by
  simp only [admittedTypes, List.mem_cons, List.not_mem_nil, or_false] at h
  cases v with
  | null | bool _ | array _ | object _ =>
    rcases h with rfl | rfl | rfl | rfl | rfl | rfl <;> simp [fit?, Json.typeName, eq_comm]
  | number n =>
    cases n <;> rcases h with rfl | rfl | rfl | rfl | rfl | rfl <;>
      simp [fit?, Json.typeName, eq_comm]
  | string text =>
    rcases h with rfl | rfl | rfl | rfl | rfl | rfl
    · simp [fit?, Json.typeName, eq_comm, spells_iff]
    · cases hn : numberIn? text <;> simp [fit?, Json.typeName, eq_comm, spells_iff, hn]
    · rcases hn : numberIn? text with _ | (i | d) <;>
        simp [fit?, Json.typeName, Json.int, eq_comm, spells_iff, hn]
    · rcases hb : boolIn? text with _ | (_ | _) <;> simp [fit?, Json.typeName, eq_comm, spells_iff, hb]
    · simp [fit?, Json.typeName, spells_iff]
    · simp [fit?, Json.typeName, spells_iff]

private theorem admits_iff {e : String × List String} (h : e ∈ admittedTypes) {kind : String}
    (named : Text.lower kind = e.1) {v : Json} : Admits kind v ↔ v = .null ∨ v.typeName ∈ e.2 := by
  have once : ∀ a ∈ admittedTypes, ∀ b ∈ admittedTypes, a.1 = b.1 → a = b := by decide
  refine or_congr_right ⟨fun all => all e h ((isNamed_iff h kind).mpr named), fun inside a ha other => ?_⟩
  obtain rfl := once a ha e h (((isNamed_iff ha kind).mp other).symm.trans named)
  exact inside

private theorem coerce_eq_ok_iff {kind : String} {v u : Json} :
    coerce kind v = .ok u ↔ Converts kind v u := by
  unfold coerce
  simp only [List.contains_iff_mem, checkedKinds_eq, Members.names, List.mem_map]
  split
  · rename_i known
    obtain ⟨e, he, named⟩ := known
    have changed : (∃ text name, v = .string text ∧ IsNamed kind name ∧ Spells text name u) ↔
        ∃ text, v = .string text ∧ Spells text e.1 u := by
      constructor
      · rintro ⟨text, name, rfl, hname, spells⟩
        obtain ⟨types, htypes, -⟩ := spells.exists_types
        obtain rfl := named.trans ((isNamed_iff htypes kind).mp hname)
        exact ⟨text, rfl, spells⟩
      · rintro ⟨text, rfl, spells⟩
        exact ⟨text, e.1, rfl, (isNamed_iff he kind).mpr named.symm, spells⟩
    rw [Converts, admits_iff he named.symm, changed, ← named, ← fit?_eq_some_iff he]
    cases fit? e.1 v <;> simp
  · rename_i unknown
    have admitted : Admits kind v :=
      .inr fun e he named => absurd ⟨e, he, ((isNamed_iff he kind).mp named).symm⟩ unknown
    constructor
    · intro kept
      cases kept
      exact .inl ⟨admitted, rfl⟩
    · rintro (⟨-, rfl⟩ | ⟨text, name, -, named, spells⟩)
      · rfl
      · obtain ⟨types, htypes, -⟩ := spells.exists_types
        exact absurd ⟨_, htypes, ((isNamed_iff htypes kind).mp named).symm⟩ unknown

private theorem Converts.admits {kind : String} {v u : Json} (h : Converts kind v u) :
    Admits kind u := by
  rcases h with ⟨admitted, rfl⟩ | ⟨text, name, -, named, spells⟩
  · exact admitted
  · obtain ⟨types, htypes, typed⟩ := spells.exists_types
    exact (admits_iff htypes ((isNamed_iff htypes kind).mp named)).mpr (.inr typed)

/-- What a parameter makes of the value that it is given or has by default. -/
def Takes (p : Parameter) (v u : Json) : Prop :=
  match p.kind with
  | some kind => Converts kind v u
  | none => u = v

/-- A value fits a parameter. -/
def Fits (p : Parameter) (v : Json) : Prop := ∃ u, p.Takes v u

private theorem Takes.again {p : Parameter} {v u : Json} (h : p.Takes v u) : p.Takes u u := by
  unfold Takes at h ⊢
  split
  · rename_i kind hkind
    simp only [hkind] at h
    exact .inl ⟨h.admits, rfl⟩
  · rfl

end Parameter

namespace Template

variable {template name : String} {p : Parameter} {given : Option Json} {o : Option Json}

private theorem valueOf_eq_ok_iff : valueOf template name p given = .ok o ↔
    (given.or p.default = none ∧ p.required = false ∧ o = none) ∨
      ∃ v u, given.or p.default = some v ∧ p.Takes v u ∧ o = some u := by
  unfold valueOf Parameter.Takes
  cases given.or p.default with
  | none =>
    cases p.required with
    | true => simp
    | false => simpa using eq_comm
  | some v =>
    cases p.kind with
    | none => simpa using eq_comm
    | some kind =>
      have opened : (∃ v' u, some v = some v' ∧ Parameter.Converts kind v' u ∧ o = some u) ↔
          ∃ u, Parameter.coerce kind v = .ok u ∧ o = some u := by
        simp [Parameter.coerce_eq_ok_iff]
      simp only [reduceCtorEq, false_and, false_or, opened]
      cases Parameter.coerce kind v with
      | error actual => simp
      | ok u => simpa using eq_comm

private def boundTo (template : String) (arguments : Members Json) (e : String × Parameter) :
    Option Json :=
  (valueOf template e.1 e.2 (Members.get? e.1 arguments)).toOption.join

private theorem bindAll_eq_ok_iff {parameters : Members Parameter} {arguments bound : Members Json}
    (hparameters : (Members.names parameters).Nodup) (harguments : (Members.names arguments).Nodup) :
    bindAll template arguments parameters = .ok bound ↔
      (∀ e ∈ parameters, ∃ o, valueOf template e.1 e.2 (Members.get? e.1 arguments) = .ok o) ∧
      bound = Members.apart (Members.names parameters) arguments ++
        Members.drawn (boundTo template arguments) parameters := by
  induction parameters generalizing arguments with
  | nil =>
    simp [bindAll, Members.apart, Members.drawn, Members.names, eq_comm]
  | cons e rest ih =>
    obtain ⟨name, p⟩ := e
    have fresh : name ∉ Members.names rest := (List.nodup_cons.mp hparameters).1
    have others := (List.nodup_cons.mp hparameters).2
    have names : Members.names ((name, p) :: rest) = name :: Members.names rest := rfl
    rw [bindAll, List.forall_mem_cons, names, Members.apart_cons harguments]
    cases hv : valueOf template name p (Members.get? name arguments) with
    | error e => simp [Bind.bind, Except.bind]
    | ok o =>
      have held : boundTo template arguments (name, p) = o := by simp [boundTo, hv, Except.toOption]
      simp only [Bind.bind, Except.bind]
      cases o with
      | none =>
        have absent : Members.get? name arguments = none := by
          rcases valueOf_eq_ok_iff.mp hv with ⟨nothing, -⟩ | ⟨v, u, -, -, made⟩
          · exact (Option.or_eq_none_iff.mp nothing).1
          · cases made
        rw [ih others harguments, Members.erase_of_get?_none absent, Members.drawn_cons_none held]
        simp
      | some v =>
        have gone : name ∉ Members.names (Members.erase name arguments) := by
          rw [Members.erase_eq_filter harguments]
          simp [Members.names]
        have same : ∀ e ∈ rest, Members.get? e.1 (Members.put name v (Members.erase name arguments)) =
            Members.get? e.1 arguments := by
          intro e he
          have other : e.1 ≠ name := by
            rintro rfl
            exact fresh (List.mem_map_of_mem he)
          rw [Members.get?_put_of_ne other, Members.get?_erase_of_ne other]
        have behind : Members.apart (Members.names rest) (Members.put name v (Members.erase name arguments)) =
            Members.apart (Members.names rest) (Members.erase name arguments) ++ [(name, v)] := by
          rw [Members.put_of_not_mem gone, Members.apart_append]
          simp [Members.apart, fresh]
        have held' : Members.drawn (boundTo template
              (Members.put name v (Members.erase name arguments))) rest =
            Members.drawn (boundTo template arguments) rest :=
          Members.drawn_congr fun e he => by rw [boundTo, boundTo, same e he]
        rw [ih others (Members.nodup_put (Members.nodup_erase harguments name) name v), behind, held',
          Members.drawn_cons_some held, List.append_assoc, List.singleton_append]
        refine and_congr_left fun _ => ?_
        simp only [Except.ok.injEq, exists_eq', true_and]
        exact forall₂_congr fun e he => by rw [same e he]

variable {t : Template} {arguments bound : Members Json}

private theorem get?_of_bound (hparameters : (Members.names t.parameters).Nodup)
    (h : bound = Members.apart (Members.names t.parameters) arguments ++
      Members.drawn (boundTo t.name arguments) t.parameters) (hp : (name, p) ∈ t.parameters) :
    Members.get? name bound = boundTo t.name arguments (name, p) := by
  have inside : name ∈ Members.names t.parameters := List.mem_map.mpr ⟨_, hp, rfl⟩
  rw [h, Members.get?_append, Members.get?_apart_of_mem inside, Option.none_or,
    Members.get?_drawn hparameters hp]

private theorem get?_of_not_declared
    (h : bound = Members.apart (Members.names t.parameters) arguments ++
      Members.drawn (boundTo t.name arguments) t.parameters) (hn : name ∉ Members.names t.parameters) :
    Members.get? name bound = Members.get? name arguments := by
  have other : name ∉ Members.names (Members.drawn (boundTo t.name arguments) t.parameters) :=
    fun inside => hn ((Members.names_drawn_sublist _ _).subset inside)
  rw [h, Members.get?_append, Members.get?_of_not_mem other, Option.or_none,
    Members.get?_apart_of_not_mem hn]

private theorem valueOf_boundTo
    (h : valueOf template name p (Members.get? name arguments) = .ok o) :
    valueOf template name p o = .ok o := by
  rcases valueOf_eq_ok_iff.mp h with ⟨nothing, optional, rfl⟩ | ⟨v, u, -, takes, rfl⟩
  · exact valueOf_eq_ok_iff.mpr (.inl ⟨(Option.or_eq_none_iff.mp nothing).2, optional, rfl⟩)
  · exact valueOf_eq_ok_iff.mpr (.inr ⟨u, u, rfl, takes.again, rfl⟩)

private theorem boundTo_of_ok (h : valueOf template name p (Members.get? name arguments) = .ok o) :
    boundTo template arguments (name, p) = o := by
  simp [boundTo, h, Except.toOption]

private theorem bind_bound (hparameters : (Members.names t.parameters).Nodup)
    (harguments : (Members.names arguments).Nodup) (h : t.bind arguments = .ok bound) :
    t.bind bound = .ok bound := by
  obtain ⟨values, closed⟩ := (bindAll_eq_ok_iff hparameters harguments).mp h
  have same : ∀ e ∈ t.parameters, ∃ o, valueOf t.name e.1 e.2 (Members.get? e.1 bound) = .ok o ∧
      boundTo t.name arguments e = o := by
    rintro ⟨name, p⟩ hp
    obtain ⟨o, value⟩ := values _ hp
    refine ⟨o, ?_, boundTo_of_ok value⟩
    rw [get?_of_bound hparameters closed hp, boundTo_of_ok value]
    exact valueOf_boundTo value
  refine (bindAll_eq_ok_iff hparameters (nodup_bindAll harguments h)).mpr ⟨fun e he => ?_, ?_⟩
  · obtain ⟨o, value, -⟩ := same e he
    exact ⟨o, value⟩
  · have drawn : Members.drawn (boundTo t.name bound) t.parameters =
        Members.drawn (boundTo t.name arguments) t.parameters := by
      refine Members.drawn_congr fun e he => ?_
      obtain ⟨o, value, equal⟩ := same e he
      exact (boundTo_of_ok value).trans equal.symm
    have declared : Members.apart (Members.names t.parameters)
        (Members.drawn (boundTo t.name arguments) t.parameters) = [] := by
      refine List.filter_eq_nil_iff.mpr fun e he => ?_
      simpa using (Members.names_drawn_sublist _ _).subset (List.mem_map_of_mem he)
    have kept : Members.apart (Members.names t.parameters) bound =
        Members.apart (Members.names t.parameters) arguments := by
      rw [closed, Members.apart_append, Members.apart_apart, declared, List.append_nil]
    rw [drawn, kept]
    exact closed

private theorem exists_valueOf : (∃ o, valueOf template name p given = .ok o) ↔
    (p.required = true → p.default = none → given ≠ none) ∧
      ∀ v, given.or p.default = some v → p.Fits v := by
  simp only [valueOf_eq_ok_iff]
  cases hv : given.or p.default with
  | none =>
    obtain ⟨rfl, none⟩ := Option.or_eq_none_iff.mp hv
    simp [none]
  | some v =>
    have there : p.default = none → given ≠ none := by
      rintro nothing rfl
      simp [nothing] at hv
    constructor
    · rintro ⟨o, ⟨nothing, -⟩ | ⟨v', u, equal, takes, -⟩⟩
      · cases nothing
      · exact ⟨fun _ => there, fun _ other => ⟨u, Option.some.inj (equal.symm.trans other) ▸ takes⟩⟩
    · rintro ⟨-, fits⟩
      obtain ⟨u, takes⟩ := fits v rfl
      exact ⟨some u, .inr ⟨v, u, rfl, takes, rfl⟩⟩

/-- What a template's parameters are bound to: the parameters that are given or have a default are
there, each with a value of its kind, and no other ones; what is not declared is kept. The names
that are not declared come first in their order, then the parameters in the order of their
declaration. To bind once more changes nothing. -/
structure Binds (t : Template) (arguments bound : Members Json) : Prop where
  present : ∀ name p v, (name, p) ∈ t.parameters →
    (Members.get? name arguments).or p.default = some v →
      ∃ u, Members.get? name bound = some u ∧ p.Takes v u ∧
        ∀ kind, p.kind = some kind → Parameter.Admits kind u
  absent : ∀ name p, (name, p) ∈ t.parameters → Members.get? name arguments = none →
    p.default = none → name ∉ Members.names bound
  kept : ∀ name, name ∉ Members.names t.parameters →
    Members.get? name bound = Members.get? name arguments
  order : Members.names bound =
    (Members.names arguments).filter (· ∉ Members.names t.parameters) ++
      (Members.names t.parameters).filter (· ∈ Members.names bound)
  again : t.bind bound = .ok bound

private theorem binds_of_bind (hparameters : (Members.names t.parameters).Nodup)
    (harguments : (Members.names arguments).Nodup) (h : t.bind arguments = .ok bound) :
    t.Binds arguments bound := by
  obtain ⟨values, closed⟩ := (bindAll_eq_ok_iff hparameters harguments).mp h
  constructor
  case present =>
    intro name p v hp hv
    obtain ⟨o, value⟩ := values _ hp
    rcases valueOf_eq_ok_iff.mp value with ⟨nothing, -⟩ | ⟨v', u, equal, takes, rfl⟩
    · rw [hv] at nothing
      cases nothing
    · obtain rfl := Option.some.inj (hv.symm.trans equal)
      refine ⟨u, ?_, takes, fun kind hkind => ?_⟩
      · rw [get?_of_bound hparameters closed hp, boundTo_of_ok value]
      · rw [Parameter.Takes, hkind] at takes
        exact takes.admits
  case absent =>
    intro name p hp hgiven hdefault
    obtain ⟨o, value⟩ := values _ hp
    refine Members.not_mem_of_get? ?_
    rw [get?_of_bound hparameters closed hp, boundTo_of_ok value]
    rcases valueOf_eq_ok_iff.mp value with ⟨-, -, rfl⟩ | ⟨v, u, equal, -⟩
    · rfl
    · simp [hgiven, hdefault] at equal
  case kept =>
    intro name hn
    exact get?_of_not_declared closed hn
  case order =>
    have present : ∀ e ∈ t.parameters, (boundTo t.name arguments e).isSome = true ↔
        e.1 ∈ Members.names bound := by
      rintro ⟨name, p⟩ hp
      rw [← Members.get?_isSome_iff, get?_of_bound hparameters closed hp]
    rw [← Members.names_drawn present, ← Members.names_apart]
    conv_lhs => rw [closed]
    exact List.map_append
  case again => exact bind_bound hparameters harguments h

/-- Binding succeeds exactly where every required parameter without a default is given and every
value that is given or taken by default fits. What it makes then is in order. -/
theorem bind_by_declaration (t : Template) (arguments : Members Json)
    (hparameters : (Members.names t.parameters).Nodup) (harguments : (Members.names arguments).Nodup) :
    ((∃ bound, t.bind arguments = .ok bound) ↔ ∀ name p, (name, p) ∈ t.parameters →
      (p.required = true → p.default = none → name ∈ Members.names arguments) ∧
      ∀ v, (Members.get? name arguments).or p.default = some v → p.Fits v) ∧
    ∀ bound, t.bind arguments = .ok bound → t.Binds arguments bound := by
  constructor
  · have closed : (∃ bound, t.bind arguments = .ok bound) ↔
        ∀ e ∈ t.parameters, ∃ o, valueOf t.name e.1 e.2 (Members.get? e.1 arguments) = .ok o := by
      simp only [bind, bindAll_eq_ok_iff hparameters harguments, exists_and_left, exists_eq, and_true]
    rw [closed, Prod.forall]
    simp only [exists_valueOf, ← Members.get?_isSome_iff, Option.isSome_iff_ne_none]
  · intro bound h
    exact binds_of_bind hparameters harguments h

/-- A template with a parameter that has to be given, one that need not be, and one with a default.
-/
def chime : Template :=
  { name := "chime", description := none, steps := [], output := []
    parameters := [("count", ⟨some "Integer", true, none, none⟩), ("note", ⟨some "string", false, none, none⟩),
      ("loud", ⟨some "BOOLEAN", false, some (.string " True "), none⟩)] }

/-- A count in words of digits, and an argument that is not declared. -/
def chimeArguments : Members Json := [("count", .string "12"), ("extra", .null)]

/-- The argument that is not declared comes first, and text has become the values that it spells. -/
theorem chime_bound :
    (Members.names chime.parameters).Nodup ∧ (Members.names chimeArguments).Nodup ∧
      ∃ bound, chime.bind chimeArguments = .ok bound ∧
        bound = [("extra", .null), ("count", .int 12), ("loud", .bool true)] ∧
        chime.Binds chimeArguments bound := by
  have parameters : (Members.names chime.parameters).Nodup := by decide
  have arguments : (Members.names chimeArguments).Nodup := by decide
  have evaluated : chime.bind chimeArguments =
      .ok [("extra", .null), ("count", .int 12), ("loud", .bool true)] := by rfl
  have laws := bind_by_declaration chime chimeArguments parameters arguments
  exact ⟨parameters, arguments, _, evaluated, rfl, laws.2 _ evaluated⟩

end Template

end Assay
