/- digest: The indented form of a value holds the indented form of every part of the value, at the
   level where the part lies. -/

import Assay.Json.Render
import Assay.Path.Access
import Assay.Proofs.Members

set_option autoImplicit false
set_option relaxedAutoImplicit false

namespace Assay

private theorem Text.exists_join_eq (between : String) {part : String} {parts : List String}
    (h : part ∈ parts) : ∃ before after, Text.join between parts = before ++ part ++ after := by
  induction parts with
  | nil => cases h
  | cons first rest ih =>
    cases rest with
    | nil =>
      obtain rfl := List.mem_singleton.mp h
      exact ⟨"", "", by simp [Text.join]⟩
    | cons next others =>
      rcases List.mem_cons.mp h with rfl | later
      · exact ⟨"", between ++ Text.join between (next :: others),
          by simp [Text.join, String.append_assoc]⟩
      · obtain ⟨before, after, equal⟩ := ih later
        refine ⟨first ++ between ++ before, after, ?_⟩
        rw [Text.join, equal]
        · simp only [String.append_assoc]
        · simp

namespace Json

private theorem renderItemsAt_eq_map (level : Nat) (items : List Json) :
    renderItemsAt level items = items.map (renderAt level) := by
  induction items with
  | nil => rfl
  | cons v rest ih => rw [renderItemsAt, ih, List.map_cons]

private theorem renderMembersAt_eq_map (level : Nat) (members : Members Json) :
    renderMembersAt level members =
      members.map fun m => Text.quoteJson m.1 ++ ": " ++ renderAt level m.2 := by
  induction members with
  | nil => rfl
  | cons m rest ih => rw [renderMembersAt, ih, List.map_cons]

private theorem exists_bracket_eq (level : Nat) (left right : String) {part : String}
    {parts : List String} (h : part ∈ parts) :
    ∃ before after, bracket level left right parts = before ++ part ++ after := by
  obtain ⟨before, after, equal⟩ := Text.exists_join_eq ("," ++ newline (level + 1)) h
  refine ⟨left ++ newline (level + 1) ++ before, after ++ newline level ++ right, ?_⟩
  rw [bracket, if_neg (by simpa using List.ne_nil_of_mem h), equal]
  simp only [String.append_assoc]

private theorem exists_renderAt_of_child? {s : Segment} {v part : Json} (level : Nat)
    (h : child? s v = some part) :
    ∃ before after, v.renderAt level = before ++ part.renderAt (level + 1) ++ after := by
  cases v with
  | array items =>
    cases s with
    | key name => cases h
    | index position =>
      have inside : part.renderAt (level + 1) ∈ renderItemsAt (level + 1) items := by
        rw [renderItemsAt_eq_map]
        exact List.mem_map_of_mem (List.mem_of_getElem? h)
      rw [renderAt]
      exact exists_bracket_eq level _ _ inside
  | object members =>
    cases s with
    | index position => cases h
    | key name =>
      have inside : Text.quoteJson name ++ ": " ++ part.renderAt (level + 1) ∈
          renderMembersAt (level + 1) members := by
        rw [renderMembersAt_eq_map]
        exact List.mem_map.mpr ⟨(name, part), Members.mem_of_get? h, rfl⟩
      obtain ⟨before, after, equal⟩ := exists_bracket_eq level "\x7b" "\x7d" inside
      refine ⟨before ++ (Text.quoteJson name ++ ": "), after, ?_⟩
      rw [renderAt, equal]
      simp only [String.append_assoc]
  | null | bool _ | number _ | string _ => cases s <;> cases h

theorem exists_renderAt_of_get? {p : List Segment} {v part : Json} (level : Nat)
    (h : get? p v = some part) :
    ∃ before after, v.renderAt level = before ++ part.renderAt (level + p.length) ++ after := by
  induction p generalizing v level with
  | nil =>
    obtain rfl : v = part := Option.some.inj h
    exact ⟨"", "", by simp⟩
  | cons s rest ih =>
    obtain ⟨next, hnext, hpart⟩ := Option.bind_eq_some_iff.mp h
    obtain ⟨before, after, outer⟩ := exists_renderAt_of_child? level hnext
    obtain ⟨before', after', inner⟩ := ih (level + 1) hpart
    refine ⟨before ++ before', after' ++ after, ?_⟩
    rw [outer, inner, List.length_cons, Nat.add_right_comm, Nat.add_assoc]
    simp only [String.append_assoc]

end Json

end Assay
