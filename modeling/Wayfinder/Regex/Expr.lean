/-
  Wayfinder/Regex/Expr.lean
  =========================
  **Expressions with their meaning settled.**

  An expression no longer knows flags, classes by name or groups that do not capture.
  It is always put together by the constructors here, which keep it in a simple form:
  rows are flat, neighbouring literals are one literal, branches that are single
  characters are one set, and branches that start alike share their start.
-/
import Wayfinder.Unicode.CodeSet

namespace Wayfinder.Regex

open Wayfinder.Unicode (CodeSet)

/-! ## 1. Expressions -/

/-- Which kind of word edge is asserted. -/
inductive WordEdge where
  | edge | noEdge | start | stop | startHalf | stopHalf
deriving DecidableEq, Repr

/-- An assertion about the place between two characters. -/
inductive Look where
  | textStart | textEnd
  | lineStart | lineEnd
  | lineStartCrlf | lineEndCrlf
  | word (kind : WordEdge) (unicode : Bool)
deriving DecidableEq, Repr

/-- An expression.  Rows and branches are nested to the right. -/
inductive Expr where
  | empty
  | literal (cs : List Char)
  | set (s : CodeSet)
  | look (l : Look)
  | repeated (min : Nat) (max : Option Nat) (greedy : Bool) (body : Expr)
  | capture (index : Nat) (body : Expr)
  | seq (first rest : Expr)
  | alt (first rest : Expr)
deriving DecidableEq, Repr

namespace Expr

/-- The expression that matches nothing. -/
def fail : Expr := .set CodeSet.empty

/-- The number of nodes. -/
def size : Expr → Nat
  | .empty | .literal _ | .set _ | .look _ => 1
  | .repeated _ _ _ body | .capture _ body => body.size + 1
  | .seq first rest | .alt first rest => first.size + rest.size + 1

/-- The highest number of a capturing group, 0 when there is none. -/
def lastGroup : Expr → Nat
  | .empty | .literal _ | .set _ | .look _ => 0
  | .repeated _ _ _ body => body.lastGroup
  | .capture index body => max index body.lastGroup
  | .seq first rest | .alt first rest => max first.lastGroup rest.lastGroup

/-- Whether the empty text is all that could be matched. -/
def onlyEmpty : Expr → Bool
  | .empty | .look _ => true
  | .literal cs => cs.isEmpty
  | .set _ => false
  | .repeated _ max _ body => max.isSome && body.onlyEmpty
  | .capture _ body => body.onlyEmpty
  | .seq first rest | .alt first rest => first.onlyEmpty && rest.onlyEmpty

/-- A lower bound on the length of a match; none when an empty set leaves it open. -/
def minLength : Expr → Option Nat
  | .empty | .look _ => some 0
  | .literal cs => some cs.length
  | .set s => if s.isEmpty then none else some 1
  | .repeated min _ _ body => body.minLength.map (· * min)
  | .capture _ body => body.minLength
  | .seq first rest => first.minLength.bind fun a => rest.minLength.map (a + ·)
  | .alt first rest => first.minLength.bind fun a => rest.minLength.map (Nat.min a)

/-! ## 2. Rows -/

/-- The factors of a row. -/
def factors : Expr → List Expr
  | .empty => []
  | .seq first rest => first :: rest.factors
  | e => [e]

/-- The row of some factors. -/
def ofFactors : List Expr → Expr
  | [] => .empty
  | [e] => e
  | e :: es => .seq e (ofFactors es)

/-- Put a factor in front, as part of the first literal where both are literals. -/
def prependFactor : Expr → List Expr → List Expr
  | .literal a, .literal b :: rest => .literal (a ++ b) :: rest
  | e, es => e :: es

/-- The simple form of a row. -/
def concat (es : List Expr) : Expr :=
  ofFactors ((es.flatMap factors).foldr prependFactor [])

/-! ## 3. Sets -/

/-- The simple form of a set: one element is a literal. -/
def ofSet (s : CodeSet) : Expr :=
  match s.only? with
  | some n => .literal [Char.ofNat n]
  | none => .set s

/-! ## 4. Repetitions -/

/-- The simple form of a repetition.  Repeating what can only match the empty text more
    than once changes nothing. -/
def repetition (min : Nat) (max : Option Nat) (greedy : Bool) (body : Expr) : Expr :=
  let low := if body.onlyEmpty then Nat.min min 1 else min
  let high := if body.onlyEmpty then some (Nat.min (max.getD 1) 1) else max
  if high = some 0 then .empty
  else if low = 1 ∧ high = some 1 then body
  else .repeated low high greedy body

/-! ## 5. Branches -/

/-- The branches of an alternation. -/
def branches : Expr → List Expr
  | .alt first rest => first :: rest.branches
  | e => [e]

/-- The alternation of some branches. -/
def ofBranches : List Expr → Expr
  | [] => fail
  | [e] => e
  | e :: es => .alt e (ofBranches es)

/-- The only character that an expression matches, if it is a one-character literal. -/
def singleChar? : Expr → Option Nat
  | .literal [c] => some c.toNat
  | _ => none

/-- The set of an expression that is one. -/
def set? : Expr → Option CodeSet
  | .set s => some s
  | _ => none

/-- The factors of an expression that is a row of at least two. -/
def row? : Expr → Option (List Expr)
  | .seq first rest => some (first :: rest.factors)
  | _ => none

/-- The longest common start of two lists. -/
def commonStart : List Expr → List Expr → List Expr
  | a :: as, b :: bs => if a = b then a :: commonStart as bs else []
  | _, _ => []

/-- The longest start that all of the lists share. -/
def sharedStart : List (List Expr) → List Expr
  | [] => []
  | row :: rows => rows.foldl commonStart row

/-- The simple form of an alternation.  The number bounds how often a shared start is
    taken out. -/
def alternationWithin : Nat → List Expr → Expr
  | 0, es => ofBranches es
  | fuel + 1, es =>
    let flat := es.flatMap branches
    match flat with
    | [] => fail
    | [e] => e
    | _ =>
      match flat.mapM singleChar? with
      | some ns => ofSet (.ofRanges (ns.map fun n => (n, n)))
      | none =>
        match flat.mapM set? with
        | some ss => ofSet (.unions ss)
        | none =>
          match flat.mapM row? with
          | some rows =>
            let start := sharedStart rows
            if start.isEmpty then ofBranches flat
            else
              concat (start ++
                [alternationWithin fuel (rows.map fun row => concat (row.drop start.length))])
          | none => ofBranches flat

/-- The simple form of an alternation. -/
def alternation (es : List Expr) : Expr :=
  match es with
  | [e] => e
  | _ => alternationWithin (es.foldr (fun e n => e.size + n) 1) es

end Expr

end Wayfinder.Regex
