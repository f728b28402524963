/-
  Wayfinder/Regex/Size.lean
  =========================
  **The memory that an expression needs.**

  An expression is accepted only if the automata that read it forward, with captures,
  and backward, without, stay within a limit.  The memory follows from the expression
  by counting states, without building them: a counted repetition needs one copy of its
  body for every round, and an alternation of words needs a tree in which words that
  start alike share their start.
-/
import Wayfinder.Unicode.ByteRows
import Wayfinder.Regex.Expr

namespace Wayfinder.Regex

open Wayfinder.Unicode (CodeSet encodedBytes encodedLength)

/-! ## 1. States -/

/-- The memory of a state, in bytes. -/
def stateSize : Nat := 32

/-- The memory of a reference from one state to another, in bytes. -/
def referenceSize : Nat := 4

/-- The memory of a transition on a range of bytes. -/
def transitionSize : Nat := 8

/-- The memory of a state with two ways on. -/
def choiceSize : Nat := stateSize + 2 * referenceSize

/-- The direction in which an automaton reads. -/
inductive Direction where
  | forward | backward
deriving DecidableEq, Repr

/-! ## 2. Words -/

/-- A tree of words, spelled in bytes.  A node lists what has been added to it, the
    newest first. -/
inductive WordTree where
  /-- Nothing more. -/
  | leaf
  /-- A word ends here, and what was added before. -/
  | stop (older : WordTree)
  /-- A byte, what follows it, and what was added before. -/
  | edge (byte : Nat) (below older : WordTree)
deriving DecidableEq, Repr

namespace WordTree

/-- The tree of one word. -/
def ofWord : List Nat → WordTree
  | [] => .stop .leaf
  | b :: bs => .edge b (ofWord bs) .leaf

/-- Add a word.  Which of two words is preferred has to stay known, so at every node a
    word joins only edges that are newer than the last end of a word there. -/
def insert : List Nat → WordTree → WordTree
  | [], t => if t = .stop .leaf then t else .stop t
  | b :: bs, .edge c below older =>
    if b = c then .edge c (below.insert bs) older else .edge c below (older.insert (b :: bs))
  | b :: bs, t => .edge b (ofWord bs) t

/-- Whether no byte follows. -/
def isEnd : WordTree → Bool
  | .leaf => true
  | .stop older => older.isEnd
  | .edge _ _ _ => false

/-- The memory for the edges between two ends of words, and for the reference to them. -/
def edgesSize : Nat → Nat
  | 0 => 0
  | 1 => referenceSize + stateSize
  | n => referenceSize + stateSize + transitionSize * n

/-- The memory for what a node lists, and for the nodes below, where `edges` edges stand
    before. -/
def size (edges : Nat) : WordTree → Nat
  | .leaf => edgesSize edges
  | .stop older => edgesSize edges + referenceSize + older.size 0
  | .edge _ below older =>
    (if below.isEnd then 0 else stateSize + below.size 0) + older.size (edges + 1)

end WordTree

/-- The bytes of a word in the order in which they are read. -/
def wordBytes (dir : Direction) (word : List Char) : List Nat :=
  let bytes := word.flatMap fun c => encodedBytes c.toNat
  match dir with
  | .forward => bytes
  | .backward => bytes.reverse

/-- The memory for an alternation of words: for its end, its start and their tree. -/
def wordsSize (dir : Direction) (words : List (List Char)) : Nat :=
  let tree := words.foldl (fun tree word => WordTree.insert (wordBytes dir word) tree) .leaf
  2 * stateSize + tree.size 0

/-- The words *en* and *fr* have neither a start nor an end in common. -/
example : wordsSize .forward ["en".toList, "fr".toList] = 252 := by decide

/-- The word of an expression that is one. -/
def Expr.word? : Expr → Option (List Char)
  | .literal cs => some cs
  | _ => none

/-- The words of an expression that is an alternation of nothing else. -/
def Expr.words? : Expr → Option (List (List Char))
  | .alt first rest => (first :: rest.branches).mapM word?
  | _ => none

/-! ## 3. Expressions -/

/-- The memory for a set. -/
def setSize (dir : Direction) (s : CodeSet) : Nat :=
  if s.isBelow 128 then 2 * stateSize + transitionSize * s.ranges.length
  else
    match dir with
    | .forward =>
      let (nodes, transitions) := s.forwardNodes
      stateSize + stateSize * nodes + transitionSize * transitions
    | .backward =>
      let (rows, ranges) := s.backwardNodes
      2 * stateSize + referenceSize * rows + stateSize * ranges

/-- The memory for a repetition of a body of the given memory. -/
def repeatedSize (min : Nat) (max : Option Nat) (bodyCanBeEmpty : Bool) (body : Nat) : Nat :=
  match max with
  | none =>
    if min = 0 then
      if bodyCanBeEmpty then body + choiceSize + choiceSize + stateSize else body + choiceSize
    else min * body + choiceSize
  | some max =>
    let fixed := if min = 0 then stateSize else min * body
    if min = max then fixed
    else if min = 0 ∧ max = 1 then body + choiceSize + stateSize
    else fixed + stateSize + (max - min) * (choiceSize + body)

/-- Whether an expression is an alternation. -/
def Expr.isAlt : Expr → Bool
  | .alt _ _ => true
  | _ => false

/-- The memory for an expression.  `inAlt` tells whether it is the rest of an
    alternation, which then has its start and end already. -/
def Expr.memory (dir : Direction) (inAlt : Bool) : Expr → Nat
  | .empty | .look _ => stateSize
  | .literal cs => stateSize * cs.foldr (fun c n => encodedLength c.toNat + n) 0
  | .set s => setSize dir s
  | .repeated min max _ body =>
    -- no bound on the length is taken for the bound 0
    repeatedSize min max (body.minLength.getD 0 == 0) (body.memory dir false)
  | .capture _ body =>
    match dir with
    | .forward => body.memory dir false + 2 * stateSize
    | .backward => body.memory dir false
  | .seq first rest => first.memory dir false + rest.memory dir false
  | .alt first rest =>
    let branches :=
      first.memory dir false + rest.memory dir true + (if rest.isAlt then referenceSize else 0)
    if inAlt then branches
    else
      match (Expr.alt first rest).words? with
      | some words => wordsSize dir words
      | none => 2 * stateSize + 2 * referenceSize + branches

/-! ## 4. The limit -/

/-- Whether every match has the edge of the text where the automaton starts to read. -/
def Expr.isAnchored (dir : Direction) : Expr → Bool
  | .empty | .literal _ | .set _ => false
  | .look l =>
    match dir with
    | .forward => l == .textStart
    | .backward => l == .textEnd
  | .repeated min _ _ body => min != 0 && body.isAnchored dir
  | .capture _ body => body.isAnchored dir
  | .seq first rest =>
    match dir with
    | .forward => first.isAnchored dir || (first.onlyEmpty && rest.isAnchored dir)
    | .backward => rest.isAnchored dir || (rest.onlyEmpty && first.isAnchored dir)
  | .alt first rest => first.isAnchored dir && rest.isAnchored dir

/-- What an automaton needs beside its expression: a start, which skips bytes unless the
    expression is anchored, the marks of the whole match when it reads forward, and the
    accepting state. -/
def frameSize (dir : Direction) (anchored : Bool) : Nat :=
  (if anchored then stateSize else choiceSize + 2 * stateSize + transitionSize) +
    (match dir with
      | .forward => 2 * stateSize
      | .backward => 0) +
    stateSize

/-- The most memory that an automaton may need. -/
def memoryLimit : Nat := 10 * 1024 * 1024

/-- Whether the automaton of an expression that reads in a direction stays within the limit. -/
def Expr.fitsIn (dir : Direction) (e : Expr) : Bool :=
  frameSize dir (e.isAnchored dir) + e.memory dir false ≤ memoryLimit

/-- From this number on, words are looked up without an automaton. -/
def manyWords : Nat := 3000

/-- Whether an expression is an alternation of so many words. -/
def Expr.isWordList (e : Expr) : Bool :=
  e.words?.any fun words => manyWords ≤ words.length

/-- Whether the automata of an expression stay within the limit. -/
def Expr.fits (e : Expr) : Bool :=
  e.isWordList || [Direction.forward, .backward].all fun dir => e.fitsIn dir

/-! ## 5. Any limit -/

/-- A limit on the size of expressions.  How large an expression is depends on the automata
    that are made of it, so the limit is a parameter of what compiles expressions. -/
class SizeLimit where
  /-- Whether an expression stays within the limit. -/
  allows : Expr → Bool

/-- The limit of the program, on the memory of the automata. -/
instance memoryBound : SizeLimit := ⟨Expr.fits⟩

end Wayfinder.Regex
