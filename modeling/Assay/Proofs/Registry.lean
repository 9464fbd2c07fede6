/- digest: Registries after any calls: a name belongs to the type that asked for it first, later
   ones are refused, and it is found in every case. Types stay in ascending order of their names. -/

import Assay.Proofs.Text.Lowering
import Assay.Registry

set_option autoImplicit false
set_option relaxedAutoImplicit false

namespace Assay

variable {κ : Type}

namespace TypeDescriptor

private theorem lower_shortName (typeName suffix : String) :
    Text.lower (shortName typeName suffix) = shortName typeName suffix := by
  unfold shortName
  dsimp only
  split
  · split
    · exact Text.lower_lower _
    · exact Text.lower_lower _
  · exact Text.lower_lower _

private theorem lower_discriminator_make (family : Family) (typeName : String)
    (given : Option String) (kind : κ) :
    Text.lower (make family typeName given kind).discriminator =
      (make family typeName given kind).discriminator := by
  cases given with
  | none => exact lower_shortName typeName family.suffix
  | some name => exact Text.lower_lower name

end TypeDescriptor

namespace Registry

private theorem perm_place (d : TypeDescriptor κ) (entries : List (TypeDescriptor κ)) :
    (place d entries).Perm (d :: entries) := by
  induction entries with
  | nil => exact .refl _
  | cons e rest ih =>
    rw [place]
    split
    · exact .refl _
    · exact (ih.cons e).trans (.swap d e rest)

private theorem pairwise_place {d : TypeDescriptor κ} {entries : List (TypeDescriptor κ)}
    (sorted : entries.Pairwise (·.discriminator < ·.discriminator))
    (new : ∀ e ∈ entries, e.discriminator ≠ d.discriminator) :
    (place d entries).Pairwise (·.discriminator < ·.discriminator) := by
  induction entries with
  | nil => exact List.pairwise_singleton _ d
  | cons e rest ih =>
    obtain ⟨least, tail⟩ := List.pairwise_cons.mp sorted
    rw [place]
    split
    next before =>
      refine List.pairwise_cons.mpr ⟨fun a ha => ?_, sorted⟩
      rcases List.mem_cons.mp ha with rfl | later
      · exact before
      · exact String.lt_trans before (least a later)
    next behind =>
      refine List.pairwise_cons.mpr ⟨fun a ha => ?_, ih tail fun a ha => new a (List.mem_cons_of_mem e ha)⟩
      rcases List.mem_cons.mp ((perm_place d rest).mem_iff.mp ha) with rfl | later
      · exact Std.lt_of_le_of_ne (String.not_lt.mp behind) (new e List.mem_cons_self)
      · exact least a later

private theorem eq_of_discriminator_eq {entries : List (TypeDescriptor κ)}
    (sorted : entries.Pairwise (·.discriminator < ·.discriminator)) {a b : TypeDescriptor κ}
    (ha : a ∈ entries) (hb : b ∈ entries) (same : a.discriminator = b.discriminator) : a = b := by
  induction entries with
  | nil => cases ha
  | cons e rest ih =>
    obtain ⟨least, tail⟩ := List.pairwise_cons.mp sorted
    rcases List.mem_cons.mp ha with rfl | inside <;> rcases List.mem_cons.mp hb with rfl | inside'
    · rfl
    · exact absurd (same ▸ least b inside') (String.lt_irrefl _)
    · exact absurd (same ▸ least a inside) (String.lt_irrefl _)
    · exact ih tail inside inside'

private theorem find?_eq_some_iff {r : Registry κ}
    (sorted : r.entries.Pairwise (·.discriminator < ·.discriminator))
    {name : String} {d : TypeDescriptor κ} :
    r.find? name = some d ↔ d ∈ r.entries ∧ d.discriminator = name := by
  constructor
  · intro found
    have named := List.find?_some found
    exact ⟨List.mem_of_find?_eq_some found, beq_iff_eq.mp named⟩
  · rintro ⟨member, rfl⟩
    cases found : r.find? d.discriminator with
    | none => exact absurd (beq_self_eq_true _) (List.find?_eq_none.mp found d member)
    | some e =>
      have named := List.find?_some found
      rw [eq_of_discriminator_eq sorted (List.mem_of_find?_eq_some found) member (beq_iff_eq.mp named)]

private theorem find?_eq_none_iff {r : Registry κ} {name : String} :
    r.find? name = none ↔ ∀ e ∈ r.entries, e.discriminator ≠ name := by
  simp [find?, List.find?_eq_none]

private theorem registerAll_singleton (r : Registry κ) (d : TypeDescriptor κ) :
    r.registerAll [d] = match r.find? d.discriminator with
      | some e => (r, some (.duplicateType r.family d.discriminator e.typeName d.typeName))
      | none => (⟨r.family, place d r.entries⟩, none) := by
  rw [registerAll, register]
  cases r.find? d.discriminator <;> rfl

/-- The types that calls were made for, in order, each with the reason where it was refused. -/
abbrev Calls (κ : Type) := List (TypeDescriptor κ × Option DefinitionError)

variable {family : Family} {calls : Calls κ} {r : Registry κ} {d : TypeDescriptor κ}

/-- The calls on an empty registry one after another, each for a type made of any names, and the
registry that they leave. -/
inductive History (family : Family) : Calls κ → Registry κ → Prop
  | start : History family [] (empty family)
  | call {calls : Calls κ} {r : Registry κ} (typeName : String) (given : Option String) (kind : κ)
      (earlier : History family calls r) :
      History family
        (calls ++ [(.make family typeName given kind,
          (r.registerAll [.make family typeName given kind]).2)])
        (r.registerAll [.make family typeName given kind]).1

/-- The call for this type was the first with its name, and succeeded. -/
def IsFirst (calls : Calls κ) (d : TypeDescriptor κ) : Prop :=
  ∃ before after, calls = before ++ (d, none) :: after ∧
    ∀ call ∈ before, call.1.discriminator ≠ d.discriminator

private theorem IsFirst.mem (first : IsFirst calls d) : (d, none) ∈ calls := by
  obtain ⟨before, after, rfl, -⟩ := first
  simp

private theorem IsFirst.append (first : IsFirst calls d) (later : Calls κ) :
    IsFirst (calls ++ later) d := by
  obtain ⟨before, after, rfl, new⟩ := first
  exact ⟨before, after ++ later, by simp, new⟩

/-- What calls leave: the types of the successful ones in order, each the first with its name. -/
structure Holds (family : Family) (calls : Calls κ) (r : Registry κ) : Prop where
  family_eq : r.family = family
  sorted : r.entries.Pairwise (·.discriminator < ·.discriminator)
  mem_iff : ∀ e, e ∈ r.entries ↔ (e, none) ∈ calls
  taken : ∀ call ∈ calls, ∃ e ∈ r.entries, e.discriminator = call.1.discriminator
  first : ∀ e ∈ r.entries, IsFirst calls e
  low : ∀ e ∈ r.entries, Text.lower e.discriminator = e.discriminator

private theorem Holds.call (holds : Holds family calls r)
    (low : Text.lower d.discriminator = d.discriminator) :
    Holds family (calls ++ [(d, (r.registerAll [d]).2)]) (r.registerAll [d]).1 := by
  rw [registerAll_singleton]
  cases found : r.find? d.discriminator with
  | some e =>
    obtain ⟨member, named⟩ := (find?_eq_some_iff holds.sorted).mp found
    exact {
      family_eq := holds.family_eq
      sorted := holds.sorted
      mem_iff a := by simp [holds.mem_iff a]
      taken call hc := by
        rcases List.mem_append.mp hc with earlier | last
        · exact holds.taken call earlier
        · rw [List.mem_singleton.mp last]
          exact ⟨e, member, named⟩
      first a ha := (holds.first a ha).append _
      low := holds.low }
  | none =>
    have new := find?_eq_none_iff.mp found
    have placed (a : TypeDescriptor κ) : a ∈ place d r.entries ↔ a = d ∨ a ∈ r.entries := by
      rw [(perm_place d r.entries).mem_iff, List.mem_cons]
    exact {
      family_eq := holds.family_eq
      sorted := pairwise_place holds.sorted new
      mem_iff a := by simp [placed a, holds.mem_iff a, or_comm]
      taken call hc := by
        rcases List.mem_append.mp hc with earlier | last
        · obtain ⟨e, member, named⟩ := holds.taken call earlier
          exact ⟨e, (placed e).mpr (.inr member), named⟩
        · rw [List.mem_singleton.mp last]
          exact ⟨d, (placed d).mpr (.inl rfl), rfl⟩
      first a ha := by
        rcases (placed a).mp ha with rfl | earlier
        · refine ⟨calls, [], rfl, fun call hc same => ?_⟩
          obtain ⟨e, member, named⟩ := holds.taken call hc
          exact new e member (named.trans same)
        · exact (holds.first a earlier).append _
      low a ha := by
        rcases (placed a).mp ha with rfl | earlier
        · exact low
        · exact holds.low a earlier }

private theorem History.holds (history : History family calls r) : Holds family calls r := by
  induction history with
  | start => exact ⟨rfl, .nil, by simp [empty], by simp, by simp [empty], by simp [empty]⟩
  | call typeName given kind _ ih =>
    exact ih.call (TypeDescriptor.lower_discriminator_make family typeName given kind)

/-- After any calls, the next one fails exactly where an earlier successful one had its name, and
leaves the registry as it is. A name in any case finds the type that was first under its lower case,
and is unknown exactly where there is none. The types are those of the successful calls, in strictly
ascending order of names in lower case. -/
theorem names_belong_to_first (history : History family calls r) :
    (∀ d : TypeDescriptor κ,
      (∀ e, (e, none) ∈ calls → e.discriminator = d.discriminator →
        r.registerAll [d] = (r, some (.duplicateType family d.discriminator e.typeName d.typeName))) ∧
      ((∀ e, (e, none) ∈ calls → e.discriminator ≠ d.discriminator) → (r.registerAll [d]).2 = none)) ∧
    (∀ name,
      (∀ d, r.get name = .ok d ↔ IsFirst calls d ∧ d.discriminator = Text.lower name) ∧
      (r.get name = .error (.unknownType family name) ↔
        ∀ e, (e, none) ∈ calls → e.discriminator ≠ Text.lower name)) ∧
    r.names.Pairwise (· < ·) ∧ (∀ e, e ∈ r.entries ↔ (e, none) ∈ calls) ∧
    ∀ name ∈ r.names, Text.lower name = name := by
  have holds := history.holds
  refine ⟨fun d => ⟨fun e call named => ?_, fun new => ?_⟩, fun name => ?_, ?_, holds.mem_iff, ?_⟩
  · rw [registerAll_singleton, (find?_eq_some_iff holds.sorted).mpr ⟨(holds.mem_iff e).mpr call, named⟩,
      holds.family_eq]
  · rw [registerAll_singleton,
      find?_eq_none_iff.mpr fun e member => new e ((holds.mem_iff e).mp member)]
  · have known (d : TypeDescriptor κ) :
        r.find? (Text.lower name) = some d ↔ IsFirst calls d ∧ d.discriminator = Text.lower name := by
      rw [find?_eq_some_iff holds.sorted]
      exact and_congr_left fun _ => ⟨holds.first d, fun first => (holds.mem_iff d).mpr first.mem⟩
    have unknown : r.find? (Text.lower name) = none ↔
        ∀ e, (e, none) ∈ calls → e.discriminator ≠ Text.lower name := by
      rw [find?_eq_none_iff]
      exact forall_congr' fun e => by rw [holds.mem_iff e]
    simp only [← known, ← unknown, get]
    cases r.find? (Text.lower name) <;> simp [holds.family_eq]
  · exact List.pairwise_map.mpr holds.sorted
  · intro name member
    obtain ⟨e, inside, rfl⟩ := List.mem_map.mp member
    exact holds.low e inside

/-- Two types ask for one name, in different cases. -/
theorem waiting_belongs_to_first :
    let calls : Calls Unit := [(.make .step "flow::WaitStep" none (), none),
      (.make .step "log::LogStep" none (), none),
      (.make .step "clock::Pause" (some "WAIT") (),
        some (.duplicateType .step "wait" "flow::WaitStep" "clock::Pause"))]
    ∃ r : Registry Unit, History .step calls r ∧ r.names = ["log", "wait"] ∧
      r.get "Wait" = .ok (.make .step "flow::WaitStep" none ()) ∧
      r.get "pause" = .error (.unknownType .step "pause") := by
  intro calls
  have history : History .step calls _ :=
    ((History.start.call "flow::WaitStep" none ()).call "log::LogStep" none ()).call "clock::Pause"
      (some "WAIT") ()
  obtain ⟨-, found, -⟩ := names_belong_to_first history
  refine ⟨_, history, by decide +kernel, ?_, ?_⟩
  · exact ((found "Wait").1 _).mpr ⟨⟨[], _, rfl, by simp⟩, by decide +kernel⟩
  · have absent : ∀ call ∈ calls, call.1.discriminator ≠ Text.lower "pause" := by decide +kernel
    exact (found "pause").2.mpr fun e call => absent _ call

end Registry

end Assay
