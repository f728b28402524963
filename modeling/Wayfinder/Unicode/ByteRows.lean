/-
  Wayfinder/Unicode/ByteRows.lean
  ===============================
  **The UTF-8 form of a set of characters.**

  An automaton over bytes reads a character as one to four bytes.  A range of code
  points is cut into pieces such that the encodings of a piece are exactly the byte
  strings of one length whose bytes lie, place by place, in given ranges.  Such a piece
  is a *row* of byte ranges.  From the rows of a set follow the numbers of states that
  an automaton needs to read it, forward and backward.
-/
import Std.Data.HashMap.Basic
import Wayfinder.Unicode.CodeSet

namespace Wayfinder.Unicode

/-! ## 1. Bytes of a code point -/

/-- The greatest code point with an encoding of the given length. -/
def lastOfLength : Nat → Nat
  | 0 => 0
  | 1 => 0x7F
  | 2 => 0x7FF
  | 3 => 0xFFFF
  | _ => lastCodePoint

/-- The length of the encoding of a code point. -/
def encodedLength (n : Nat) : Nat :=
  if n ≤ 0x7F then 1 else if n ≤ 0x7FF then 2 else if n ≤ 0xFFFF then 3 else 4

/-- The bytes of a code point. -/
def encodedBytes (n : Nat) : List Nat :=
  match encodedLength n with
  | 1 => [n]
  | 2 => [0xC0 + n / 64, 0x80 + n % 64]
  | 3 => [0xE0 + n / 4096, 0x80 + n / 64 % 64, 0x80 + n % 64]
  | _ => [0xF0 + n / 262144, 0x80 + n / 4096 % 64, 0x80 + n / 64 % 64, 0x80 + n % 64]

/-! ## 2. Rows -/

/-- Where a range has to be cut so that its parts have encodings of one length and
    agree in all places before the first that spans more than its whole range.  The
    result is the last code point of the first part. -/
def cutAfter? (lo hi : Nat) : Option Nat :=
  match [1, 2, 3].find? fun k => lo ≤ lastOfLength k && lastOfLength k < hi with
  | some k => some (lastOfLength k)
  | none =>
    if hi ≤ 0x7F then none
    else
      [64, 4096, 262144].findSome? fun m =>
        if lo / m = hi / m then none
        else if lo % m ≠ 0 then some (lo / m * m + (m - 1))
        else if hi % m ≠ m - 1 then some (hi / m * m - 1)
        else none

/-- The rows of a range, in ascending order.  The number bounds the cuts in a row; a
    dozen is enough for any range. -/
def rowsWithin : Nat → Nat → Nat → List (List (Nat × Nat))
  | 0, _, _ => []
  | fuel + 1, lo, hi =>
    match cutAfter? lo hi with
    | some m => rowsWithin fuel lo m ++ rowsWithin fuel (m + 1) hi
    | none => [(encodedBytes lo).zip (encodedBytes hi)]

/-- The rows of a set of characters. -/
def CodeSet.byteRows (s : CodeSet) : List (List (Nat × Nat)) :=
  s.ranges.flatMap fun r => rowsWithin 32 r.1 r.2

/-! ## 3. Counting states -/

/-- A tree of byte ranges: the rows that share a start share the nodes for it. -/
inductive RowTree where
  /-- The end of a row. -/
  | leaf
  /-- A byte range, what follows it, and the alternatives after it. -/
  | branch (first last : Nat) (below next : RowTree)
deriving Repr

/-- The row alone. -/
def RowTree.ofRow : List (Nat × Nat) → RowTree
  | [] => .leaf
  | (a, b) :: row => .branch a b (ofRow row) .leaf

/-- Add a row to a tree. -/
def RowTree.insert (row : List (Nat × Nat)) : RowTree → RowTree
  | .leaf => ofRow row
  | .branch a b below next =>
    match row with
    | [] => .branch a b below next
    | (c, d) :: rest =>
      if a = c ∧ b = d then .branch a b (below.insert rest) next
      else .branch a b below (next.insert row)

/-- The number of byte ranges in a tree. -/
def RowTree.size : RowTree → Nat
  | .leaf => 0
  | .branch _ _ below next => 1 + below.size + next.size

/-- Nodes met so far, by their transitions. -/
abbrev NodeTable := Std.HashMap (List (Nat × Nat × Nat)) Nat

/-- The number of the node with some transitions, known or new. -/
def NodeTable.number (t : NodeTable) (node : List (Nat × Nat × Nat)) : NodeTable × Nat :=
  match t[node]? with
  | some n => (t, n)
  | none => (t.insert node (t.size + 1), t.size + 1)

/-- Number the nodes below a tree, equal ones alike, and list the transitions of the
    tree itself.  Number 0 is the end of the rows. -/
def RowTree.transitions : RowTree → NodeTable → NodeTable × List (Nat × Nat × Nat)
  | .leaf, t => (t, [])
  | .branch a b below next, t =>
    let (t, inner) := below.transitions t
    let (t, target) := if inner.isEmpty then (t, 0) else t.number inner
    let (t, others) := next.transitions t
    (t, (a, b, target) :: others)

/-- How many nodes, and how many transitions in all, an automaton needs that reads the
    set forward and shares equal ends. -/
def CodeSet.forwardNodes (s : CodeSet) : Nat × Nat :=
  let tree := s.byteRows.foldl (fun t row => RowTree.insert row t) .leaf
  let (t, root) := tree.transitions ∅
  let (t, _) := t.number root
  (t.size, t.fold (fun n node _ => n + node.length) 0)

/-- How many rows there are, and how many byte ranges an automaton needs that reads the
    set backward and shares equal starts. -/
def CodeSet.backwardNodes (s : CodeSet) : Nat × Nat :=
  let rows := s.byteRows
  (rows.length, (rows.foldl (fun t row => RowTree.insert row t) .leaf).size)

end Wayfinder.Unicode
