/-
  Wayfinder/Pattern/Anchored.lean
  ===============================
  **The regular expression of a variant.**

  A variant matches a whole path: its expression is anchored at both ends, its literal
  text is escaped, and each token becomes a group around the fragment of its position.
  Fragments may hold groups of their own, so the group of a token is found by counting.
-/
import Wayfinder.Pattern.Token
import Wayfinder.Pattern.Expansion
import Wayfinder.Pattern.Constraint
import Wayfinder.Regex.Compile

namespace Wayfinder.Pattern

/-! ## 1. The expression -/

/-- The characters that stand for themselves only after a backslash. -/
def needsEscape (c : Char) : Bool :=
  ['\\', '.', '+', '*', '?', '(', ')', '|', '[', ']', openBrace, closeBrace, '^', '$', '#',
    '&', '-', '~'].contains c

/-- A character as an expression that matches it alone. -/
def escapeChar (c : Char) : List Char := if needsEscape c then ['\\', c] else [c]

/-- The fragment of a position, the default where there is none. -/
def fragmentAt (fragments : List String) (p : Option Nat) : String :=
  (p.bind fun i => fragments[i]?).getD defaultFragment

/-- The part of the expression that a place of the pattern contributes. -/
def Place.expression (fragments : List String) : Place → List Char
  | .char c => escapeChar c
  | .digits ds =>
    '(' :: (fragmentAt fragments (Place.digits ds).position?).toList ++ [')']

/-- The anchored expression of a pattern. -/
def anchoredExpression (pattern : String) (fragments : List String) : String :=
  String.ofList ('^' :: (places pattern).flatMap (Place.expression fragments) ++ ['$'])

/-- A variant with its anchored expression. -/
structure AnchoredVariant where
  pattern : String
  indices : List Nat
  regex : String
deriving DecidableEq, Repr

/-- Anchor a variant. -/
def Variant.anchor (v : Variant) (fragments : List String) : AnchoredVariant :=
  ⟨v.pattern, v.indices, anchoredExpression v.pattern fragments⟩

/-! ## 2. Groups -/

/-- The number of groups that a fragment brings along. -/
def innerGroups [Regex.SizeLimit] (fragment : String) : Nat :=
  match Regex.compile fragment with
  | .ok r => r.groupCount
  | .error _ => 0

/-- The group of each token, given the numbers of inner groups by position, when the
    first of them has the number `slot`. -/
def slotsFrom (slot : Nat) (inner : List Nat) : List Nat → List Nat
  | [] => []
  | i :: indices => slot :: slotsFrom (slot + 1 + inner[i]?.getD 0) inner indices

theorem length_slotsFrom (slot : Nat) (inner indices : List Nat) :
    (slotsFrom slot inner indices).length = indices.length := by
  induction indices generalizing slot with
  | nil => rfl
  | cons i indices ih => rw [slotsFrom, List.length_cons, ih, List.length_cons]

/-- The group of each token of a variant, in order. -/
def captureSlots [Regex.SizeLimit] (indices : List Nat) (fragments : List String) : List Nat :=
  slotsFrom 1 (fragments.map innerGroups) indices

end Wayfinder.Pattern
