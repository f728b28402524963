/-
  Wayfinder/Regex/Match.lean
  ==========================
  **Finding the leftmost match of highest priority.**

  The matcher walks over the text once, with an ordered row of *threads*.  A thread is
  what is left to be matched, as a stack of *frames*, and the marks made so far.  At
  each place a thread is unfolded into *items*, in order of priority: a step that
  expects a character, or the end of its frames.  When a thread ends, the match is
  noted and all threads after it are dropped, as they have lower priority; those before
  it may still find a better one.

  Unfolding follows the structure of the expression.  An expression can be passed
  without a character in several ways, but only the first of them counts: the others
  lead to the same frames with lower priority.  For the same reason a round of a loop
  that consumes nothing is not repeated, and of two threads with equal frames only the
  first is kept.  So nothing here needs a bound on its steps.
-/
import Wayfinder.Unicode.Property
import Wayfinder.Regex.Expr

namespace Wayfinder.Regex

open Wayfinder.Unicode

/-! ## 1. Places -/

/-- A place in a text: how many characters stand before it, and its neighbours. -/
structure Place where
  position : Nat
  before : Option Char
  after : Option Char
deriving DecidableEq, Repr

/-- Whether a neighbour is a word character. -/
def isWordAt (unicode : Bool) : Option Char → Bool
  | none => false
  | some c => if unicode then Property.word.has c else c.isAlphanum || c == '_'

/-- Whether a word edge of a kind lies between two neighbours. -/
def WordEdge.holds (before after : Bool) : WordEdge → Bool
  | .edge => before != after
  | .noEdge => before == after
  | .start => !before && after
  | .stop => before && !after
  | .startHalf => !before
  | .stopHalf => !after

/-- Whether an assertion holds at a place. -/
def Look.holds (here : Place) : Look → Bool
  | .textStart => here.before.isNone
  | .textEnd => here.after.isNone
  | .lineStart => here.before.isNone || here.before == some '\n'
  | .lineEnd => here.after.isNone || here.after == some '\n'
  | .lineStartCrlf =>
    here.before.isNone || here.before == some '\n' ||
      (here.before == some '\r' && here.after != some '\n')
  | .lineEndCrlf =>
    here.after.isNone || here.after == some '\r' ||
      (here.after == some '\n' && here.before != some '\r')
  | .word kind unicode => kind.holds (isWordAt unicode here.before) (isWordAt unicode here.after)

/-! ## 2. Frames, marks and items -/

/-- A part of what is left to be matched. -/
inductive Frame where
  /-- Match an expression. -/
  | run (e : Expr)
  /-- End a group. -/
  | close (index : Nat)
  /-- After a round of an unbounded loop: another round, or on. -/
  | again (greedy : Bool) (body : Expr)
deriving DecidableEq, Repr

/-- The start or the end of a group, at a position. -/
inductive Mark where
  | opened (index position : Nat)
  | closed (index position : Nat)
deriving DecidableEq, Repr

/-- The marks of a thread, the latest first. -/
abbrev Marks := List Mark

/-- One way on from a place. -/
inductive Item where
  /-- A character of the set has to follow, then the frames. -/
  | step (marks : Marks) (on : CodeSet) (frames : List Frame)
  /-- Nothing more is needed. -/
  | done (marks : Marks)
deriving DecidableEq, Repr

/-- Whether an item needs nothing more. -/
def Item.isDone : Item → Bool
  | .step _ _ _ => false
  | .done _ => true

/-! ## 3. Unfolding -/

/-- The items that need a character. -/
def steps (items : List Item) : List Item := items.filter fun i => !i.isDone

/-- Keep the first item that needs nothing more, and drop the others. -/
def firstDone : List Item → List Item
  | [] => []
  | .step m on fs :: items => .step m on fs :: firstDone items
  | .done m :: items => .done m :: steps items

/-- Go on after items: steps keep the frames `rest` for later, and an item that needs
    nothing more is replaced by what `next` finds here. -/
def andThen (rest : List Frame) (next : Marks → List Item) : List Item → List Item
  | [] => []
  | .step m on fs :: items => .step m on (fs ++ rest) :: andThen rest next items
  | .done m :: items => next m ++ andThen rest next items

/-- What may be skipped: a greedy choice tries it first, a lazy one last. -/
def orSkip (greedy : Bool) (m : Marks) (items : List Item) : List Item :=
  if greedy then firstDone (items ++ [.done m]) else firstDone (.done m :: items)

/-- The first round of a loop of at least one round.  A round that consumes nothing
    ends the loop. -/
def loopItems (greedy : Bool) (body : Expr) (once : Marks → List Item) (m : Marks) :
    List Item :=
  andThen [.again greedy body] (fun m => [.done m]) (once m)

/-- At least `min` rounds. -/
def atLeastItems (greedy : Bool) (body : Expr) (once : Marks → List Item) :
    Nat → Marks → List Item
  | 0, m => orSkip greedy m (loopItems greedy body once m)
  | 1, m => loopItems greedy body once m
  | n + 2, m =>
    andThen [.run (.repeated (n + 1) none greedy body)]
      (atLeastItems greedy body once (n + 1)) (once m)

/-- At most `max` rounds. -/
def atMostItems (greedy : Bool) (body : Expr) (once : Marks → List Item) :
    Nat → Marks → List Item
  | 0, m => [.done m]
  | n + 1, m =>
    orSkip greedy m
      (andThen [.run (.repeated 0 (some n) greedy body)] (atMostItems greedy body once n) (once m))

/-- At least `min` and at most `extra` more rounds. -/
def betweenItems (greedy : Bool) (body : Expr) (once : Marks → List Item) (extra : Nat) :
    Nat → Marks → List Item
  | 0, m => atMostItems greedy body once extra m
  | n + 1, m =>
    andThen [.run (.repeated n (some (n + extra)) greedy body)]
      (betweenItems greedy body once extra n) (once m)

/-- The items of an expression at a place, in order of priority. -/
def Expr.items (here : Place) : Expr → Marks → List Item
  | .empty, m => [.done m]
  | .literal [], m => [.done m]
  | .literal (c :: cs), m =>
    [.step m (.single c.toNat) (if cs.isEmpty then [] else [.run (.literal cs)])]
  | .set s, m => [.step m s []]
  | .look l, m => if l.holds here then [.done m] else []
  | .repeated min none greedy body, m =>
    atLeastItems greedy body (fun m => body.items here m) min m
  | .repeated min (some max) greedy body, m =>
    betweenItems greedy body (fun m => body.items here m) (max - min) min m
  | .capture i body, m =>
    andThen [.close i] (fun m => [.done (.closed i here.position :: m)])
      (body.items here (.opened i here.position :: m))
  | .seq first rest, m =>
    andThen [.run rest] (fun m => rest.items here m) (first.items here m)
  | .alt first rest, m => firstDone (first.items here m ++ rest.items here m)

/-- The items of a frame. -/
def Frame.items (here : Place) : Frame → Marks → List Item
  | .run e, m => e.items here m
  | .close i, m => [.done (.closed i here.position :: m)]
  | .again greedy body, m =>
    orSkip greedy m
      (andThen [.again greedy body] (fun _ => []) (body.items here m))

/-- The items of a stack of frames. -/
def stackItems (here : Place) : List Frame → Marks → List Item
  | [], m => [.done m]
  | f :: fs, m => andThen fs (fun m => stackItems here fs m) (f.items here m)

/-! ## 4. Threads -/

/-- Frames that are left, with the marks made so far. -/
structure Thread where
  marks : Marks
  frames : List Frame
deriving DecidableEq, Repr

/-- The items before the first that needs nothing more, and the marks of that one. -/
def untilDone : List Item → List Item × Option Marks
  | [] => ([], none)
  | .done m :: _ => ([], some m)
  | .step m on fs :: items =>
    let (before, found) := untilDone items
    (.step m on fs :: before, found)

/-- The threads that go on over a character.  Of equal stacks the first is kept. -/
def survivors (c : Char) (seen : List (List Frame)) : List Item → List Thread
  | [] => []
  | .done _ :: items => survivors c seen items
  | .step m on fs :: items =>
    if on.has c && !seen.contains fs then ⟨m, fs⟩ :: survivors c (fs :: seen) items
    else survivors c seen items

/-- Run threads over the rest of a text.  `best` is the match noted so far. -/
def runThreads (position : Nat) (before : Option Char) :
    List Char → List Thread → Option Marks → Option Marks
  | [], threads, best =>
    let here : Place := ⟨position, before, none⟩
    (untilDone (threads.flatMap fun t => stackItems here t.frames t.marks)).2.or best
  | c :: cs, threads, best =>
    let here : Place := ⟨position, before, some c⟩
    let (live, found) := untilDone (threads.flatMap fun t => stackItems here t.frames t.marks)
    match survivors c [] live with
    | [] => found.or best
    | next => runThreads (position + 1) (some c) cs next (found.or best)

/-! ## 5. Searching -/

/-- The marks of the leftmost match that starts at or after a place. -/
def Expr.searchFrom (e : Expr) (position : Nat) (before : Option Char) :
    List Char → Option Marks
  | [] => runThreads position before [] [⟨[], [.run e]⟩] none
  | c :: cs =>
    (runThreads position before (c :: cs) [⟨[], [.run e]⟩] none).or
      (e.searchFrom (position + 1) (some c) cs)

/-- The marks of the leftmost match. -/
def Expr.search (e : Expr) (text : List Char) : Option Marks := e.searchFrom 0 none text

/-- The positions between which a group matched last. -/
def groupSpan? (marks : Marks) (index : Nat) : Option (Nat × Nat) :=
  let start := marks.findSome? fun
    | .opened i p => if i = index then some p else none
    | .closed _ _ => none
  let stop := marks.findSome? fun
    | .closed i p => if i = index then some p else none
    | .opened _ _ => none
  match start, stop with
  | some a, some b => some (a, b)
  | _, _ => none

end Wayfinder.Regex
