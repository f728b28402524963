/-
  Wayfinder/Proofs/Segments.lean
  ==============================
  **Wildcards without a constraint.**

  A wildcard that is not bound takes a segment: one or more letters, digits, underscores,
  percent signs and hyphens.  Here the default fragment is compiled once and for all.  It
  has no comment, so the expression of a variant whose wildcards are all unbound is read as
  it was put together.
-/
import Wayfinder.Proofs.Composition
import Wayfinder.Proofs.Faithfulness

namespace Wayfinder.Pattern

open Wayfinder.Regex
open Wayfinder.Unicode (CodeSet)

/-! ## 1. Segments -/

/-- The characters that a wildcard without a constraint takes. -/
def isSegmentChar (c : Char) : Bool := c.isAlphanum || c == '_' || c == '%' || c == '-'

/-- The values that a wildcard without a constraint takes. -/
def IsSegment (v : List Char) : Prop := v ≠ [] ∧ ∀ c ∈ v, isSegmentChar c = true

/-- The code points of the segment characters. -/
def segmentSet : CodeSet := ⟨[(37, 37), (45, 45), (48, 57), (65, 90), (95, 95), (97, 122)]⟩

theorem isSegmentChar_iff {c : Char} :
    isSegmentChar c = true ↔
      (65 ≤ c.toNat ∧ c.toNat ≤ 90) ∨ (97 ≤ c.toNat ∧ c.toNat ≤ 122) ∨
        (48 ≤ c.toNat ∧ c.toNat ≤ 57) ∨ c.toNat = 95 ∨ c.toNat = 37 ∨ c.toNat = 45 := by
  have hclasses : isSegmentChar c =
      (((((decide (c.val ≥ 65 ∧ c.val ≤ 90) || (decide (c.val ≥ 97) && decide (c.val ≤ 122))) ||
        (decide (c.val ≥ 48) && decide (c.val ≤ 57))) || c == '_') || c == '%') || c == '-') := rfl
  have hchar : ∀ d : Char, c = d ↔ c.toNat = d.toNat := fun d => Char.toNat_inj.symm
  simp only [hclasses, Bool.or_eq_true, Bool.and_eq_true, decide_eq_true_eq, beq_iff_eq, ge_iff_le,
    UInt32.le_iff_toNat_le, hchar]
  change ((((((65 ≤ c.toNat ∧ c.toNat ≤ 90) ∨ (97 ≤ c.toNat ∧ c.toNat ≤ 122)) ∨
    (48 ≤ c.toNat ∧ c.toNat ≤ 57)) ∨ c.toNat = 95) ∨ c.toNat = 37) ∨ c.toNat = 45) ↔ _
  omega

theorem memRanges_cons_iff {n lo hi : Nat} {rest : List (Nat × Nat)} :
    CodeSet.memRanges n ((lo, hi) :: rest) = true ↔
      lo ≤ n ∧ (n ≤ hi ∨ CodeSet.memRanges n rest = true) := by
  rw [CodeSet.memRanges]
  by_cases hlo : n < lo
  · rw [if_pos hlo]
    simp [hlo]
  · rw [if_neg hlo]
    by_cases hhi : n ≤ hi
    · simp [hhi, Nat.le_of_not_lt hlo]
    · simp [hhi, Nat.le_of_not_lt hlo]

theorem has_segmentSet (c : Char) : segmentSet.has c = isSegmentChar c := by
  have hend : CodeSet.memRanges c.toNat [] = false := rfl
  rw [Bool.eq_iff_iff, isSegmentChar_iff]
  simp only [segmentSet, CodeSet.has, CodeSet.contains, memRanges_cons_iff, hend,
    Bool.false_eq_true, or_false]
  omega

/-! ## 2. The default fragment -/

theorem fragmentExpr_defaultFragment :
    fragmentExpr defaultFragment = .repeated 1 none true (.set segmentSet) := by
  cbv

theorem fragmentGroups_defaultFragment : fragmentGroups defaultFragment = 0 := by
  decide

theorem innerGroups_defaultFragment : innerGroups defaultFragment = 0 := by
  cbv

/-- Whether all fragments are the default one. -/
def Unbound (slots : List Slot) : Prop := ∀ f, Slot.fragment f ∈ slots → f = defaultFragment

theorem Unbound.usable {slots : List Slot} (h : Unbound slots) {f : String}
    (hf : Slot.fragment f ∈ slots) : Usable f := by
  rw [h f hf]
  exact usable_defaultFragment

/-- The default fragment has no comment. -/
theorem Unbound.readsInGroup {slots : List Slot} (h : Unbound slots) {f : String}
    (hf : Slot.fragment f ∈ slots) : ReadsInGroup f := by
  rw [h f hf]
  exact usable_defaultFragment.readsInGroup (by decide)

end Wayfinder.Pattern
