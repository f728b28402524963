/-
  Wayfinder/Unicode/CodeSet.lean
  ==============================
  **Sets of code points as ordered ranges.**

  A character class, a Unicode category and the alphabet of a matcher's step are all
  sets of code points.  They are kept as ranges in ascending order that neither meet
  nor touch, so that two sets with the same elements, when built by the operations
  here, are the same value.
-/

namespace Wayfinder.Unicode

/-! ## 1. Ranges -/

/-- The greatest code point. -/
def lastCodePoint : Nat := 0x10FFFF

/-- A set of code points: ranges in ascending order, with a gap between any two. -/
structure CodeSet where
  ranges : List (Nat × Nat)
deriving DecidableEq, Repr

namespace CodeSet

/-- The set without elements. -/
def empty : CodeSet := ⟨[]⟩

/-- Whether there are no elements. -/
def isEmpty (s : CodeSet) : Bool := s.ranges.isEmpty

/-- Whether a number lies in one of the ranges; as they ascend, a range that starts
    beyond it ends the search. -/
def memRanges (n : Nat) : List (Nat × Nat) → Bool
  | [] => false
  | (lo, hi) :: rest => if n < lo then false else if n ≤ hi then true else memRanges n rest

/-- Whether a code point is an element. -/
def contains (s : CodeSet) (n : Nat) : Bool := memRanges n s.ranges

/-- Whether a character is an element. -/
def has (s : CodeSet) (c : Char) : Bool := s.contains c.toNat

/-! ## 2. Building -/

/-- Join ranges that meet or touch.  The input ascends by lower ends; `(lo, hi)` is the
    range being grown. -/
def joinRanges (lo hi : Nat) : List (Nat × Nat) → List (Nat × Nat)
  | [] => [(lo, hi)]
  | (a, b) :: rest =>
    if a ≤ hi + 1 then joinRanges lo (max hi b) rest else (lo, hi) :: joinRanges a b rest

/-- The set of the numbers in any of the ranges, in any order. -/
def ofRanges (rs : List (Nat × Nat)) : CodeSet :=
  match (rs.filter fun r => r.1 ≤ r.2).mergeSort fun a b => a.1 ≤ b.1 with
  | [] => ⟨[]⟩
  | (lo, hi) :: rest => ⟨joinRanges lo hi rest⟩

/-- One range. -/
def range (lo hi : Nat) : CodeSet := ofRanges [(lo, hi)]

/-- One element. -/
def single (n : Nat) : CodeSet := ⟨[(n, n)]⟩

/-- The elements of either set. -/
def union (s t : CodeSet) : CodeSet := ofRanges (s.ranges ++ t.ranges)

/-- The elements of any of the sets. -/
def unions (ss : List CodeSet) : CodeSet := ofRanges (ss.flatMap CodeSet.ranges)

/-! ## 3. Complements -/

/-- The gaps from `start` on, below and between the ranges, up to `last`. -/
def gaps (last start : Nat) : List (Nat × Nat) → List (Nat × Nat)
  | [] => if start ≤ last then [(start, last)] else []
  | (lo, hi) :: rest =>
    if start < lo then (start, lo - 1) :: gaps last (hi + 1) rest else gaps last (hi + 1) rest

/-- The numbers up to `last` that are no elements. -/
def complement (last : Nat) (s : CodeSet) : CodeSet := ⟨gaps last 0 s.ranges⟩

/-- The common elements. -/
def inter (s t : CodeSet) : CodeSet :=
  complement lastCodePoint ((complement lastCodePoint s).union (complement lastCodePoint t))

/-- The elements of `s` that are not in `t`. -/
def diff (s t : CodeSet) : CodeSet := s.inter (complement lastCodePoint t)

/-- The elements of exactly one of the sets. -/
def symmDiff (s t : CodeSet) : CodeSet := (s.union t).diff (s.inter t)

/-- The code points that are characters: all but the surrogates. -/
def characters : CodeSet := ⟨[(0, 0xD7FF), (0xE000, lastCodePoint)]⟩

/-- The characters that are no elements. -/
def negate (s : CodeSet) : CodeSet := characters.diff s

/-- The only element of a set with exactly one. -/
def only? (s : CodeSet) : Option Nat :=
  match s.ranges with
  | [(lo, hi)] => if lo = hi then some lo else none
  | _ => none

/-- Whether every element is below `bound`. -/
def isBelow (bound : Nat) (s : CodeSet) : Bool := s.ranges.all fun r => r.2 < bound

end CodeSet

/-! ## 4. Tables -/

/-- The number that a row of hexadecimal digits denotes; other characters count as
    nothing. -/
def hexValue (cs : List Char) : Nat :=
  cs.foldl (fun n c =>
    if c.isDigit then 16 * n + (c.toNat - 48)
    else if 'A' ≤ c ∧ c ≤ 'F' then 16 * n + (c.toNat - 55)
    else n) 0

/-- The entries of a table, which spaces and line breaks separate. -/
def tableEntries (table : String) : List String :=
  let spaced := String.ofList (table.toList.map fun c => if c = '\n' then ' ' else c)
  (spaced.splitOn " ").filter (· ≠ "")

/-- The ranges that a table lists.  An entry is a hexadecimal number or two joined by a
    hyphen; entries ascend. -/
def tableRanges (table : String) : List (Nat × Nat) :=
  (tableEntries table).map fun entry =>
    match entry.splitOn "-" with
    | [lo, hi] => (hexValue lo.toList, hexValue hi.toList)
    | _ => (hexValue entry.toList, hexValue entry.toList)

/-- The set that a table lists. -/
def CodeSet.ofTable (table : String) : CodeSet := ⟨tableRanges table⟩

end Wayfinder.Unicode
