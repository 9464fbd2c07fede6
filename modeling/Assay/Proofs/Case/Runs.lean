/- digest: What a completed test case did: one run without datasets, or one for each dataset in
   order. -/

import Assay.Proofs.Exec.Completion
import Assay.Run.Case

set_option autoImplicit false
set_option relaxedAutoImplicit false

namespace Assay.TestCase

open Context (globalsRoot)

variable {c : TestCase} {w : Surroundings} {s t : RunState} {base : Context}
  {carried last : Option Json} {results : List CaseResult}

theorem runDatasets_nil_eq_ok :
    c.runDatasets base carried [] w s = (.ok (results, last), t) ↔
      results = [] ∧ last = carried ∧ s = t := by
  simp [runDatasets, eq_comm, and_assoc]

theorem runDatasets_cons_eq_ok {d : Dataset} {rest : List Dataset} :
    c.runDatasets base carried (d :: rest) w s = (.ok (results, last), t) ↔
      ∃ start result u others, d.enter w.processVariable base carried = .ok start ∧
        c.runOnce (some d.name) w { s with context := start } = (.ok result, u) ∧
        c.runDatasets base (u.context.root? globalsRoot) rest w { u with context := s.context } =
          (.ok (others, last), t) ∧
        results = result :: others := by
  simp only [runDatasets, Exec.bind_eq_ok, Exec.unrefused_eq_ok]
  constructor
  · rintro ⟨_, _, hw, start, _, ⟨hstart, rfl⟩, ⟨result, after⟩, v, hrun, ⟨others, final⟩, v', hrest,
      hend⟩
    obtain ⟨rfl, rfl⟩ := Exec.end_ok_inj.mp hw
    obtain ⟨u, hu, rfl, rfl⟩ := Exec.apart_eq_ok.mp hrun
    obtain ⟨heq, rfl⟩ := Exec.pure_eq_ok.mp hend
    cases heq
    exact ⟨start, result, u, others, hstart, hu, hrest, rfl⟩
  · rintro ⟨start, result, u, others, hstart, hu, hrest, rfl⟩
    refine ⟨w, s, rfl, start, s, ⟨hstart, rfl⟩, (result, u.context), { u with context := s.context },
      Exec.apart_eq_ok.mpr ⟨u, hu, rfl, rfl⟩, (others, last), t, hrest, rfl⟩

/-- What a completed case did, with datasets or without. -/
theorem run_eq_ok (h : c.run w s = (.ok results, t)) :
    (c.datasets = [] ∧ ∃ result u,
      c.runOnce none w { s with context := s.context.copy } = (.ok result, u) ∧
      carry (u.context.root? globalsRoot) w { u with context := s.context } = (.ok (), t) ∧
      results = [result]) ∨
    (c.datasets ≠ [] ∧ ∃ last u,
      c.runDatasets s.context.copy none c.datasets w s = (.ok (results, last), u) ∧
      carry last w u = (.ok (), t)) := by
  simp only [run, Exec.bind_eq_ok] at h
  obtain ⟨_, _, hctx, h⟩ := h
  obtain ⟨rfl, rfl⟩ := Exec.end_ok_inj.mp hctx
  split at h
  · rename_i hempty
    simp only [Exec.bind_eq_ok] at h
    obtain ⟨⟨result, after⟩, v, hrun, _, v', hcarry, hend⟩ := h
    obtain ⟨u, hu, rfl, rfl⟩ := Exec.apart_eq_ok.mp hrun
    obtain ⟨rfl, rfl⟩ := Exec.pure_eq_ok.mp hend
    exact Or.inl ⟨List.isEmpty_iff.mp hempty, result, u, hu, hcarry, rfl⟩
  · rename_i hnonempty
    simp only [Exec.bind_eq_ok] at h
    obtain ⟨⟨all, last⟩, u, hruns, _, v, hcarry, hend⟩ := h
    obtain ⟨rfl, rfl⟩ := Exec.pure_eq_ok.mp hend
    refine Or.inr ⟨fun single => hnonempty (List.isEmpty_iff.mpr single), last, u, hruns, hcarry⟩

private theorem exists_runOnce_of_runDatasets {datasets : List Dataset} {result : CaseResult}
    (h : c.runDatasets base carried datasets w s = (.ok (results, last), t))
    (hresult : result ∈ results) :
    ∃ dataset u v, c.runOnce dataset w u = (.ok result, v) := by
  induction datasets generalizing carried s results with
  | nil =>
    obtain ⟨rfl, -, -⟩ := runDatasets_nil_eq_ok.mp h
    cases hresult
  | cons d rest ih =>
    obtain ⟨start, first, u, others, -, hrun, hrest, rfl⟩ := runDatasets_cons_eq_ok.mp h
    rcases List.mem_cons.mp hresult with rfl | later
    · exact ⟨some d.name, _, u, hrun⟩
    · exact ih hrest later

theorem exists_runOnce {result : CaseResult} (h : c.run w s = (.ok results, t))
    (hresult : result ∈ results) : ∃ dataset u v, c.runOnce dataset w u = (.ok result, v) := by
  rcases run_eq_ok h with ⟨-, only, u, hrun, -, rfl⟩ | ⟨-, last, u, hruns, -⟩
  · obtain rfl := List.mem_singleton.mp hresult
    exact ⟨none, _, u, hrun⟩
  · exact exists_runOnce_of_runDatasets hruns hresult

end Assay.TestCase
