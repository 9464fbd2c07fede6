/- digest: Tests in any case for a part of a text that stands in it as written: they find it where
   each of its sigmas ends a word in the whole exactly where it does so in the part alone. -/

import Assay.Proofs.Assertion.Negation
import Assay.Proofs.Text.Lowering
import Assay.Proofs.Token.Settled
import Assay.Run.Suite

set_option autoImplicit false
set_option relaxedAutoImplicit false

namespace Assay

open Text (KeepsSigmas)

variable {scope : Scope} {a : Assertion} {t u w : String}

/-- An assertion tests one text for another, and nothing in them is replaced. -/
structure Operator.Tests (o : Operator) (a : Assertion) (actual expected : String) : Prop where
  operation : a.operation = o.operation
  actual_eq : a.operands.actual = .string actual
  expected_eq : a.operands.expected = .string expected
  actual_plain : Token.isLive actual = false
  expected_plain : Token.isLive expected = false

private theorem Token.resolveValue_string_of_plain {s : String} (h : isLive s = false) :
    resolveValue scope (.string s) = .silent (.string s) := by
  refine expandWith_of_not_live fun other inside => ?_
  rw [Json.texts, List.mem_singleton] at inside
  rw [inside, h]

private theorem Operator.Tests.passes_iff {o : Operator} {actual expected : String}
    (h : o.Tests a actual expected) :
    a.Passes scope ↔ o.accepts (.string actual) (.string expected) = true := by
  have first : Token.resolveValue scope a.operands.actual = .silent (.string actual) := by
    rw [h.actual_eq, Token.resolveValue_string_of_plain h.actual_plain]
  have second : Token.resolveValue scope a.operands.expected = .silent (.string expected) := by
    rw [h.expected_eq, Token.resolveValue_string_of_plain h.expected_plain]
  have ran := Assertion.runsOn_of_resolved first second
  exact (ran.passes_iff h.operation).trans succeeds_iff_accepts

private theorem passes_startsWith_iff (h : Operator.startsWith.Tests a (t ++ u) t) :
    a.Passes scope ↔ KeepsSigmas [] t.toList u.toList :=
  h.passes_iff.trans Text.startsWith_lower_append

private theorem passes_endsWith_iff (h : Operator.endsWith.Tests a (u ++ t) t) :
    a.Passes scope ↔ KeepsSigmas u.toList.reverse t.toList [] :=
  h.passes_iff.trans Text.endsWith_lower_append

private theorem passes_contains (h : Operator.contains.Tests a (u ++ t ++ w) t)
    (kept : KeepsSigmas u.toList.reverse t.toList w.toList) : a.Passes scope :=
  h.passes_iff.mpr (Text.contains_lower_append kept)

private theorem Runner.selects_of_part {r : Runner} (filtered : r.filter = some t)
    (kept : KeepsSigmas u.toList.reverse t.toList w.toList) : r.selects (u ++ t ++ w) = true := by
  rw [selects, filtered]
  exact Text.contains_lower_append kept

/-- A text is found in front of another, behind it or inside it, and the name of a case with it is
selected, where every sigma of the text ends a word there exactly where it ends one in the text
alone. -/
theorem parts_found_by_sigmas (scope : Scope) {r : Runner} (t u w : String)
    (filtered : r.filter = some t) :
    (∀ a, Operator.startsWith.Tests a (t ++ u) t → (a.Passes scope ↔ KeepsSigmas [] t.toList u.toList)) ∧
    (∀ a, Operator.endsWith.Tests a (u ++ t) t →
      (a.Passes scope ↔ KeepsSigmas u.toList.reverse t.toList [])) ∧
    (KeepsSigmas u.toList.reverse t.toList w.toList →
      (∀ a, Operator.contains.Tests a (u ++ t ++ w) t → a.Passes scope) ∧
      r.selects (u ++ t ++ w) = true) :=
  ⟨fun _ => passes_startsWith_iff, fun _ => passes_endsWith_iff,
    fun kept => ⟨fun _ tests => passes_contains tests kept, Runner.selects_of_part filtered kept⟩⟩

/-- A text without a capital sigma is found wherever it stands. -/
theorem parts_without_sigma_found (scope : Scope) {r : Runner} (t u w : String)
    (filtered : r.filter = some t)
    (free : 'Σ' ∉ t.toList) :
    (∀ a, Operator.startsWith.Tests a (t ++ u) t → a.Passes scope) ∧
    (∀ a, Operator.endsWith.Tests a (u ++ t) t → a.Passes scope) ∧
    (∀ a, Operator.contains.Tests a (u ++ t ++ w) t → a.Passes scope) ∧ r.selects (u ++ t ++ w) = true :=
  ⟨fun _ tests => (passes_startsWith_iff tests).mpr (Text.keepsSigmas_of_not_mem free),
    fun _ tests => (passes_endsWith_iff tests).mpr (Text.keepsSigmas_of_not_mem free),
    fun _ tests => passes_contains tests (Text.keepsSigmas_of_not_mem free),
    Runner.selects_of_part filtered (Text.keepsSigmas_of_not_mem free)⟩

def onTexts (o : Operator) (actual expected : String) : Assertion :=
  ⟨"", o.operation, ⟨.string actual, .string expected, none, false⟩⟩

def ofWord (word : String) : Runner := ⟨.standard, [], [], [], some word⟩

def unset : Scope := ⟨.empty, fun _ => none⟩

/-- A word that ends in a sigma is found before a blank and behind one. -/
theorem word_of_sigma_found :
    (onTexts .startsWith "ΟΔΟΣ Η " "ΟΔΟΣ").Passes unset ∧ (onTexts .endsWith " Η ΟΔΟΣ" "ΟΔΟΣ").Passes unset ∧
    (onTexts .contains " Η ΟΔΟΣ ΜΟΥ" "ΟΔΟΣ").Passes unset ∧ (ofWord "ΟΔΟΣ").selects " Η ΟΔΟΣ ΜΟΥ" = true := by
  obtain ⟨starts, ends, inside⟩ := parts_found_by_sigmas unset "ΟΔΟΣ" " Η " " ΜΟΥ" (r := ofWord "ΟΔΟΣ") rfl
  have tests (o : Operator) (actual : String) (plain : Token.isLive actual = false) :
      o.Tests (onTexts o actual "ΟΔΟΣ") actual "ΟΔΟΣ" := ⟨rfl, rfl, rfl, plain, by decide +kernel⟩
  obtain ⟨contained, selected⟩ := inside (by decide +kernel)
  refine ⟨(starts _ (tests _ _ (by decide +kernel))).mpr (by decide +kernel), ?_, ?_, selected⟩
  · exact (ends _ (tests _ _ (by decide +kernel))).mpr (by decide +kernel)
  · exact contained _ (tests _ _ (by decide +kernel))

/-- The sigma at the end of a text is another letter than the one that goes on, so the text is not
found. -/
theorem sigma_within_not_found :
    ¬ (onTexts .startsWith "ΑΣΑ" "ΑΣ").Passes unset ∧ (ofWord "ΑΣ").selects "ΑΣΑ" = false := by
  decide +kernel

end Assay
