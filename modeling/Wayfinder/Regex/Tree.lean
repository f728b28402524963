/-
  Wayfinder/Regex/Tree.lean
  =========================
  **Regular expressions as they are written.**

  A tree keeps what the text says and nothing more: flags are still directives, groups
  are still groups, and a class is still the list of its items.  What a tree *means*
  under the flags in force is settled when it is lowered to an expression.
-/

namespace Wayfinder.Regex

/-! ## 1. Leaves -/

/-- A literal character.  `byteForm` marks one written as `\x` and two digits, which
    outside Unicode mode stands for a byte. -/
structure Letter where
  char : Char
  byteForm : Bool := false
deriving DecidableEq, Repr

/-- Assertions as they are written; `^` and `$` depend on flags. -/
inductive Assertion where
  | lineStart | lineEnd | textStart | textEnd
  | wordEdge | notWordEdge | wordStart | wordEnd | wordStartHalf | wordEndHalf
deriving DecidableEq, Repr

/-- The classes written as one escaped letter. -/
inductive ShortClass where
  | digit | space | word
deriving DecidableEq, Repr

/-- The classes written as a name between colons, inside brackets. -/
inductive AsciiClass where
  | alnum | alpha | ascii | blank | cntrl | digit | graph
  | lower | print | punct | space | upper | word | xdigit
deriving DecidableEq, Repr

/-- What a Unicode class asks for. -/
inductive UnicodeQuery where
  /-- One letter after the `p`. -/
  | letter (c : Char)
  /-- A name in braces. -/
  | name (text : String)
  /-- A property and a value in braces. -/
  | property (name value : String)
deriving DecidableEq, Repr

/-! ## 2. Bracketed classes -/

/-- The operators between the parts of a bracketed class. -/
inductive SetOp where
  | inter | diff | symmDiff
deriving DecidableEq, Repr

/-- The inside of a bracketed class.  A row of items is nested to the right by `join`. -/
inductive ClassTree where
  | nothing
  | letter (l : Letter)
  | range (first last : Letter)
  | ascii (kind : AsciiClass) (negated : Bool)
  | short (kind : ShortClass) (negated : Bool)
  | unicode (query : UnicodeQuery) (negated : Bool)
  | bracketed (negated : Bool) (inner : ClassTree)
  | join (first rest : ClassTree)
  | combine (op : SetOp) (left right : ClassTree)
deriving DecidableEq, Repr

/-- A row of items, given in order. -/
def ClassTree.ofItems : List ClassTree → ClassTree
  | [] => .nothing
  | [t] => t
  | t :: ts => .join t (ofItems ts)

/-! ## 3. Trees -/

/-- The flags. -/
inductive Flag where
  | caseInsensitive | multiLine | dotAll | swapGreed | unicode | crlf | extended
deriving DecidableEq, Repr

/-- Flag settings: each flag that is named, with the value it is set to. -/
abbrev FlagSettings := List (Flag × Bool)

/-- What the parentheses of a group do. -/
inductive GroupKind where
  /-- Capture what the group matches. -/
  | capture (name : Option String)
  /-- Only group, with some flags set inside. -/
  | plain (settings : FlagSettings)
deriving DecidableEq, Repr

/-- An expression as it is written.  Rows of factors and rows of branches are nested to
    the right by `cat` and `either`; a row inside another row always stands in a
    group. -/
inductive Tree where
  | empty
  | settings (fs : FlagSettings)
  | letter (l : Letter)
  | dot
  | assertion (a : Assertion)
  | short (kind : ShortClass) (negated : Bool)
  | unicode (query : UnicodeQuery) (negated : Bool)
  | bracketed (negated : Bool) (inner : ClassTree)
  | repeated (min : Nat) (max : Option Nat) (greedy : Bool) (body : Tree)
  | group (kind : GroupKind) (body : Tree)
  | cat (first rest : Tree)
  | either (first rest : Tree)
deriving DecidableEq, Repr

namespace Tree

/-- A row of factors, given in order. -/
def ofFactors : List Tree → Tree
  | [] => .empty
  | [t] => t
  | t :: ts => .cat t (ofFactors ts)

/-- A row of branches, given in order. -/
def ofBranches : List Tree → Tree
  | [] => .empty
  | [t] => t
  | t :: ts => .either t (ofBranches ts)

end Tree

/-! ## 4. Nesting -/

/-- How deeply a class nests.  Inside a row, the rest of the row adds no level. -/
def ClassTree.depth (inRow : Bool) : ClassTree → Nat
  | .nothing | .letter _ | .range _ _ | .ascii _ _ | .short _ _ | .unicode _ _ => 0
  | .bracketed _ inner => 1 + inner.depth false
  | .join first rest =>
    (if inRow then 0 else 1) + max (first.depth false) (rest.depth true)
  | .combine _ left right => 1 + max (left.depth false) (right.depth false)

/-- How deeply a tree nests.  Rows, groups, repetitions and classes count, leaves do
    not; inside a row of factors or branches, the rest of that row adds no level. -/
def Tree.depth (inCat inEither : Bool) : Tree → Nat
  | .empty | .settings _ | .letter _ | .dot | .assertion _ | .short _ _ | .unicode _ _ => 0
  | .bracketed _ inner => 1 + inner.depth false
  | .repeated _ _ _ body => 1 + body.depth false false
  | .group _ body => 1 + body.depth false false
  | .cat first rest =>
    (if inCat then 0 else 1) + max (first.depth false false) (rest.depth true false)
  | .either first rest =>
    (if inEither then 0 else 1) + max (first.depth false false) (rest.depth false true)

/-- The deepest nesting that is accepted. -/
def nestingLimit : Nat := 250

end Wayfinder.Regex
