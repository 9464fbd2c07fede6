/- digest: Results as trees: what every single result owes to those right inside it, it owes to all
   that lie below it. -/

import Assay.Run.Result

set_option autoImplicit false
set_option relaxedAutoImplicit false

namespace Assay

namespace StepResult

mutual

/-- A result and all results inside it, each before those inside it. -/
def nodes : StepResult → List StepResult
  | ⟨id, name, kind, success, error, milliseconds, findings, changes, details, inner, logs⟩ =>
    ⟨id, name, kind, success, error, milliseconds, findings, changes, details, inner, logs⟩ ::
      nodesOf inner

/-- Results in order, with all results inside them. -/
def nodesOf : List StepResult → List StepResult
  | [] => []
  | r :: rest => nodes r ++ nodesOf rest

end

theorem inner_induction {P : StepResult → Prop} (h : ∀ r, (∀ x ∈ r.inner, P x) → P r)
    (r : StepResult) : P r := by
  refine StepResult.rec (motive_1 := P) (motive_2 := fun l => ∀ x ∈ l, P x) ?_ ?_ ?_ r
  · intro id name kind success error milliseconds findings changes details inner logs hinner
    exact h _ hinner
  · simp
  · intro x rest hx hrest y hy
    rcases List.mem_cons.mp hy with rfl | hy
    · exact hx
    · exact hrest y hy

private theorem mem_nodesOf {n : StepResult} {l : List StepResult} :
    n ∈ nodesOf l ↔ ∃ r ∈ l, n ∈ r.nodes := by
  induction l with
  | nil => simp [nodesOf]
  | cons r rest ih => simp [nodesOf, ih]

theorem mem_nodes {n r : StepResult} : n ∈ r.nodes ↔ n = r ∨ ∃ x ∈ r.inner, n ∈ x.nodes := by
  cases r
  simp [nodes, mem_nodesOf]

theorem self_mem_nodes (r : StepResult) : r ∈ r.nodes := mem_nodes.mpr (Or.inl rfl)

private theorem mem_nodes_trans {m n r : StepResult} (hm : m ∈ n.nodes) (hn : n ∈ r.nodes) :
    m ∈ r.nodes := by
  induction r using inner_induction with
  | h r ih =>
    rcases mem_nodes.mp hn with rfl | ⟨x, hx, hn⟩
    · exact hm
    · exact mem_nodes.mpr (Or.inr ⟨x, hx, ih x hx hn⟩)

theorem failedFindings_eq (r : StepResult) :
    r.failedFindings = r.findings.filter (!·.success) ++ failedFindingsOf r.inner := by
  cases r
  rw [failedFindings]

private theorem failedFindingsOf_eq_nil_iff {l : List StepResult} :
    failedFindingsOf l = [] ↔ ∀ r ∈ l, r.failedFindings = [] := by
  induction l with
  | nil => simp [failedFindingsOf]
  | cons r rest ih => simp [failedFindingsOf, ih]

/-- A result has everything below it that its own success promises. -/
def Sound (r : StepResult) : Prop :=
  r.success = true → (∀ f ∈ r.findings, f.success = true) ∧ ∀ x ∈ r.inner, x.success = true

/-- A result is a success if and only if all that lies right below it succeeded. -/
def Exact (r : StepResult) : Prop :=
  r.success = true ↔ (∀ f ∈ r.findings, f.success = true) ∧ ∀ x ∈ r.inner, x.success = true

theorem Exact.sound {r : StepResult} (h : r.Exact) : r.Sound := h.mp

private theorem success_of_mem_nodes {r : StepResult} (hsound : ∀ n ∈ r.nodes, n.Sound)
    (hr : r.success = true) :
    ∀ n ∈ r.nodes, n.success = true ∧ ∀ f ∈ n.findings, f.success = true := by
  induction r using inner_induction with
  | h r ih =>
    have own := hsound r r.self_mem_nodes hr
    intro n hn
    rcases mem_nodes.mp hn with rfl | ⟨x, hx, hn⟩
    · exact ⟨hr, own.1⟩
    · refine ih x hx (fun m hm => hsound m ?_) (own.2 x hx) n hn
      exact mem_nodes.mpr (Or.inr ⟨x, hx, hm⟩)

private theorem failedFindings_ne_nil {r : StepResult} (hexact : ∀ n ∈ r.nodes, n.Exact)
    (hr : r.success = false) : r.failedFindings ≠ [] := by
  induction r using inner_induction with
  | h r ih =>
    intro none
    rw [failedFindings_eq, List.append_eq_nil_iff, failedFindingsOf_eq_nil_iff] at none
    obtain ⟨own, below⟩ := none
    have success : r.success = true := by
      refine (hexact r r.self_mem_nodes).mpr ⟨fun f hf => ?_, fun x hx => ?_⟩
      · simpa using List.filter_eq_nil_iff.mp own f hf
      · cases failed : x.success with
        | true => rfl
        | false =>
          refine absurd (below x hx) (ih x hx (fun n hn => hexact n ?_) failed)
          exact mem_nodes.mpr (Or.inr ⟨x, hx, hn⟩)
    rw [hr] at success
    cases success

/-- Every success in a result, at any depth, has only successes and no failed assertion under it. -/
def Honest (r : StepResult) : Prop :=
  ∀ n ∈ r.nodes, n.success = true →
    ∀ m ∈ n.nodes, m.success = true ∧ ∀ f ∈ m.findings, f.success = true

/-- Every failure in a result, at any depth, goes back to failed assertions. -/
def Accounted (r : StepResult) : Prop :=
  ∀ n ∈ r.nodes, n.success = false → n.failedFindings ≠ []

theorem honest_of_sound {r : StepResult} (h : ∀ n ∈ r.nodes, n.Sound) : r.Honest :=
  fun _ hn success => success_of_mem_nodes (fun m hm => h m (mem_nodes_trans hm hn)) success

theorem accounted_of_exact {r : StepResult} (h : ∀ n ∈ r.nodes, n.Exact) : r.Accounted :=
  fun _ hn failed => failedFindings_ne_nil (fun m hm => h m (mem_nodes_trans hm hn)) failed

theorem sound_ofFault (frame : StepFrame) (fault : Fault) (logs : List String) :
    ∀ n ∈ (ofFault frame fault logs).nodes, n.Sound := by
  intro n hn
  rcases mem_nodes.mp hn with rfl | ⟨x, hx, -⟩
  · intro success
    cases success
  · cases hx

theorem exact_ofRound (index : Nat) (results : List StepResult) :
    (ofRound index results).Exact := by
  simp [Exact, ofRound]

end StepResult

namespace Outcome

theorem failures_eq_zero_iff {results : List StepResult} :
    failures results = 0 ↔ ∀ r ∈ results, r.success = true := by
  simp [failures]

theorem inner_withInner (inner : List StepResult) (o : Outcome) :
    (o.withInner inner).inner = inner := by
  dsimp only [withInner]
  split
  · rfl
  · rfl

theorem changes_withInner (inner : List StepResult) (o : Outcome) :
    (o.withInner inner).changes = o.changes := by
  dsimp only [withInner]
  split
  · rfl
  · rfl

theorem details_withInner (inner : List StepResult) (o : Outcome) :
    (o.withInner inner).details = o.details := by
  dsimp only [withInner]
  split
  · rfl
  · rfl

private theorem success_withInner (inner : List StepResult) (o : Outcome) :
    (o.withInner inner).success = true ↔ o.success = true ∧ ∀ r ∈ inner, r.success = true := by
  dsimp only [withInner]
  split
  · rename_i none
    exact ⟨fun h => ⟨h, failures_eq_zero_iff.mp none⟩, And.left⟩
  · rename_i some
    rw [failures_eq_zero_iff] at some
    simp [some]

/-- The success of work does not go beyond that of its inner results. -/
def Sound (o : Outcome) : Prop := o.success = true → ∀ r ∈ o.inner, r.success = true

/-- Work is a success if and only if all its inner results are. -/
def Exact (o : Outcome) : Prop := o.success = true ↔ ∀ r ∈ o.inner, r.success = true

theorem Exact.sound {o : Outcome} (h : o.Exact) : o.Sound := h.mp

theorem sound_withInner (inner : List StepResult) (o : Outcome) : (o.withInner inner).Sound := by
  intro h
  rw [inner_withInner]
  exact ((success_withInner inner o).mp h).2

theorem exact_withInner (inner : List StepResult) {o : Outcome} (ho : o.success = true) :
    (o.withInner inner).Exact := by
  rw [Exact, success_withInner, inner_withInner]
  simp [ho]

theorem exact_of_inner_nil {o : Outcome} (ho : o.success = true) (hinner : o.inner = []) :
    o.Exact := by
  simp [Exact, ho, hinner]

end Outcome

end Assay
