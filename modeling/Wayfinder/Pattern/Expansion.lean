/-
  Wayfinder/Pattern/Expansion.lean
  ================================
  **Expanding optional wildcards.**

  Every optional wildcard of a pattern is either wholly present or wholly removed, so
  a pattern with `k` of them stands for up to `2^k` concrete variants.  Choices are
  made in the order of a binary counter whose bit `i` means "the `i`-th optional is
  absent": the full form comes first, the form without any optional last.
-/
import Std.Data.HashSet.Basic
import Wayfinder.Pattern.Token
import Wayfinder.Pattern.Path
import Wayfinder.Pattern.Wildcards

namespace Wayfinder.Pattern

/-! ## 1. Choices -/

/-- The most optional wildcards that one pattern may declare. -/
def maxOptionals : Nat := 16

/-- The choice at a counter value: `true` where the optional is present. -/
def presence (k counter : Nat) : List Bool := (List.range k).map fun bit => !counter.testBit bit

/-- All choices for `k` optionals, in counter order. -/
def powerSet (k : Nat) : List (List Bool) := (List.range (1 <<< k)).map (presence k)

/-! ## 2. Removing tokens -/

/-- Remove every occurrence of `needle` from the left, after `skip` characters of the
    occurrence before. -/
def removeAll (needle : List Char) : Nat → List Char → List Char
  | _, [] => []
  | skip + 1, _ :: cs => removeAll needle skip cs
  | 0, c :: cs =>
    if needle.isPrefixOf (c :: cs) then removeAll needle (needle.length - 1) cs
    else c :: removeAll needle 0 cs

/-- Remove the tokens of the given positions, one position after the other. -/
def removePositions (cs : List Char) (positions : List Nat) : List Char :=
  positions.foldl (fun text i => removeAll (positionToken i) 0 text) cs

/-- The positions among `optionals` that a choice leaves out. -/
def absentPositions (optionals : List Nat) (choice : List Bool) : List Nat :=
  (optionals.zip choice).filterMap fun (i, present) => if present then none else some i

/-- The pattern of a choice: the positional form itself when nothing is absent, else
    the normalized rest. -/
def variantPattern (form : String) (absent : List Nat) : String :=
  if absent.isEmpty then form
  else String.ofList (normalizeChars (removePositions form.toList absent))

/-! ## 3. Expansion -/

/-- A concrete pattern, with the positions of its tokens from left to right. -/
structure Variant where
  pattern : String
  indices : List Nat
deriving DecidableEq, Repr

/-- Keep the first of equal texts.  `seen` holds the texts kept so far. -/
def firstOccurrences (seen : Std.HashSet String) : List String → List String
  | [] => []
  | s :: rest =>
    if seen.contains s then firstOccurrences seen rest
    else s :: firstOccurrences (seen.insert s) rest

/-- The variants of a positional form.  Without an optional there is one, the form
    itself with every position; otherwise one per distinct pattern of a choice. -/
def expand (form : String) (optional : List Bool) : List Variant :=
  match flaggedFrom 0 optional with
  | [] => [⟨form, List.range optional.length⟩]
  | optionals =>
    let patterns := (powerSet optionals.length).map fun choice =>
      variantPattern form (absentPositions optionals choice)
    (firstOccurrences ∅ patterns).map fun pattern => ⟨pattern, survivingPositions pattern⟩

end Wayfinder.Pattern
