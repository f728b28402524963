/-
  Wayfinder/Regex/Parser.lean
  ===========================
  **Reading expressions.**

  An expression is read in one pass with a stack of the groups that are open.  The
  state holds the factors of the branch being read and the branches of the group that
  are finished; a closing parenthesis turns both into a group of the enclosing branch.
-/
import Wayfinder.Regex.Escape
import Wayfinder.Regex.ClassParser

namespace Wayfinder.Regex

/-! ## 1. The state -/

/-- A group that is open: its kind, and the state of the enclosing branch. -/
structure OpenGroup where
  kind : GroupKind
  branches : List Tree
  factors : List Tree
  extended : Bool
deriving DecidableEq, Repr

/-- What has been read.  Factors, branches and groups have the latest first. -/
structure ParseState where
  /-- The factors of the branch being read. -/
  factors : List Tree := []
  /-- The finished branches of the innermost open group. -/
  branches : List Tree := []
  /-- The groups that are open. -/
  groups : List OpenGroup := []
  /-- Whether blanks and comments count for nothing. -/
  extended : Bool := false
  /-- The group names seen so far. -/
  names : List String := []
deriving DecidableEq, Repr

namespace ParseState

/-- Add a factor to the branch being read. -/
def push (st : ParseState) (t : Tree) : ParseState := { st with factors := t :: st.factors }

/-- What the innermost open group holds so far. -/
def content (st : ParseState) : Tree :=
  Tree.ofBranches (Tree.ofFactors st.factors.reverse :: st.branches).reverse

/-- End the branch being read. -/
def nextBranch (st : ParseState) : ParseState :=
  { st with factors := [], branches := Tree.ofFactors st.factors.reverse :: st.branches }

/-- Open a group. -/
def openGroup (st : ParseState) (kind : GroupKind) : ParseState :=
  let inside :=
    match kind with
    | .capture _ => st.extended
    | .plain fs => (fs.value? .extended).getD st.extended
  { st with
    factors := []
    branches := []
    groups := ⟨kind, st.branches, st.factors, st.extended⟩ :: st.groups
    extended := inside }

/-- Close the innermost open group. -/
def closeGroup (st : ParseState) : Except Fault ParseState :=
  match st.groups with
  | [] => .error .malformed
  | g :: groups =>
    .ok
      { st with
        factors := .group g.kind st.content :: g.factors
        branches := g.branches
        groups := groups
        extended := g.extended }

/-- Repeat the last factor.  There has to be one, and it has to be no flag setting. -/
def repeatLast (st : ParseState) (min : Nat) (max : Option Nat) (greedy : Bool) :
    Except Fault ParseState :=
  match st.factors with
  | [] | .empty :: _ | .settings _ :: _ => .error .malformed
  | t :: ts => .ok { st with factors := .repeated min max greedy t :: ts }

end ParseState

/-! ## 2. Groups -/

/-- Whether a group starts like a look-around, which is not supported. -/
def isLookAround : List Char → Bool
  | '?' :: '=' :: _ | '?' :: '!' :: _ | '?' :: '<' :: '=' :: _ | '?' :: '<' :: '!' :: _ => true
  | _ => false

/-- A group name up to its closing angle bracket. -/
def groupName (first : Bool) : List Char → Option (List Char × List Char)
  | [] => none
  | c :: cs =>
    if c = '>' then if first then none else some ([], cs)
    else if (if first then isGroupNameStart c else isGroupNameRest c) then
      (groupName false cs).map fun r => (c :: r.1, r.2)
    else none

/-- Open a capturing group with a name that no other group has. -/
def openNamed (st : ParseState) (cs : List Char) : Except Fault (ParseState × List Char) :=
  match groupName true cs with
  | some (name, rest) =>
    let name := String.ofList name
    if st.names.contains name then .error .malformed
    else .ok ({ st with names := name :: st.names }.openGroup (.capture (some name)), rest)
  | none => .error .malformed

/-- What follows an opening parenthesis: the head of a group, or flags to set. -/
def groupHead (st : ParseState) (cs : List Char) : Except Fault (ParseState × List Char) :=
  let start := skipBlanks st.extended cs
  if isLookAround start then .error .malformed
  else
    match start with
    | '?' :: 'P' :: '<' :: rest => openNamed st rest
    | '?' :: '<' :: rest => openNamed st rest
    | '?' :: rest =>
      match flagSettings false false [] rest with
      | none => .error .malformed
      | some (fs, closes, rest) =>
        if closes then
          if fs.isEmpty then .error .malformed
          else
            .ok ({ st.push (.settings fs) with
              extended := (fs.value? .extended).getD st.extended }, rest)
        else .ok (st.openGroup (.plain fs), rest)
    | _ => .ok (st.openGroup (.capture none), start)

/-! ## 3. Factors and repetitions -/

/-- The tree of an escape. -/
def Primitive.tree : Primitive → Tree
  | .letter l => .letter l
  | .assertion a => .assertion a
  | .short kind negated => .short kind negated
  | .unicode query negated => .unicode query negated

/-- A question mark after a repetition makes it lazy. -/
def laziness : List Char → Bool × List Char
  | '?' :: rest => (false, rest)
  | cs => (true, cs)

/-- Read one thing, given its first character and the characters after it. -/
def parseStep (st : ParseState) (c : Char) (rest : List Char) :
    Except Fault (ParseState × List Char) :=
  match c with
  | '(' => groupHead st rest
  | ')' => do return (← st.closeGroup, rest)
  | '|' => .ok (st.nextBranch, rest)
  | '[' => do
    let (negated, inner, rest) ← bracketClass st.extended rest
    return (st.push (.bracketed negated inner), rest)
  | '?' => do
    let (greedy, rest) := laziness rest
    return (← st.repeatLast 0 (some 1) greedy, rest)
  | '*' => do
    let (greedy, rest) := laziness rest
    return (← st.repeatLast 0 none greedy, rest)
  | '+' => do
    let (greedy, rest) := laziness rest
    return (← st.repeatLast 1 none greedy, rest)
  | '\x7b' => do
    let (low, high, rest) ← counts st.extended (skipBlanks st.extended rest)
    match rest with
    | '\x7d' :: rest =>
      let (greedy, rest) := laziness (skipBlanks st.extended rest)
      return (← st.repeatLast low high greedy, rest)
    | _ => .error .malformed
  | '\\' => do
    let (p, rest) ← escape st.extended rest
    return (st.push p.tree, rest)
  | '.' => .ok (st.push .dot, rest)
  | '^' => .ok (st.push (.assertion .lineStart), rest)
  | '$' => .ok (st.push (.assertion .lineEnd), rest)
  | c => .ok (st.push (.letter { char := c }), rest)

/-! ## 4. Expressions -/

/-- Read to the end.  The number bounds the steps; each takes a character at least. -/
def parseLoop : Nat → ParseState → List Char → Except Fault ParseState
  | 0, _, _ => .error .malformed
  | fuel + 1, st, cs =>
    match skipBlanks st.extended cs with
    | [] => .ok st
    | c :: rest => do
      let (st, rest) ← parseStep st c rest
      parseLoop fuel st rest

/-- The tree of an expression, of any depth. -/
def parseTree (cs : List Char) : Except Fault Tree := do
  let st ← parseLoop (cs.length + 1) {} cs
  if st.groups.isEmpty then return st.content else .error .malformed

/-- The tree of an expression that keeps the nesting limit. -/
def parse (cs : List Char) : Except Fault Tree := do
  let t ← parseTree cs
  if t.depth false false ≤ nestingLimit then return t else .error .nestedTooDeeply

end Wayfinder.Regex
