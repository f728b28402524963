/-
  Wayfinder/Regex/Lower.lean
  ==========================
  **From trees to expressions.**

  Lowering walks a tree from left to right with the flags in force and the number of
  the next capturing group.  A flag setting holds to the end of the group it stands in,
  across branches.  Outside Unicode mode classes are ASCII only, and whatever could
  match a byte that is no character is refused.
-/
import Wayfinder.Unicode.CodeSet
import Wayfinder.Unicode.CaseFold
import Wayfinder.Unicode.Lookup
import Wayfinder.Regex.Fault
import Wayfinder.Regex.Tree
import Wayfinder.Regex.Escape
import Wayfinder.Regex.Expr

namespace Wayfinder.Regex

open Wayfinder.Unicode

/-! ## 1. Flags in force -/

/-- The flags in force at a place of an expression. -/
structure Flags where
  caseInsensitive : Bool := false
  multiLine : Bool := false
  dotAll : Bool := false
  swapGreed : Bool := false
  unicode : Bool := true
  crlf : Bool := false
deriving DecidableEq, Repr

/-- Set one flag. -/
def Flags.put (fl : Flags) : Flag × Bool → Flags
  | (.caseInsensitive, b) => { fl with caseInsensitive := b }
  | (.multiLine, b) => { fl with multiLine := b }
  | (.dotAll, b) => { fl with dotAll := b }
  | (.swapGreed, b) => { fl with swapGreed := b }
  | (.unicode, b) => { fl with unicode := b }
  | (.crlf, b) => { fl with crlf := b }
  | (.extended, _) => fl

/-- Apply flag settings. -/
def Flags.apply (fl : Flags) (fs : FlagSettings) : Flags := fs.foldl Flags.put fl

/-! ## 2. Sets under flags -/

/-- The ranges of a named ASCII class. -/
def AsciiClass.ranges : AsciiClass → List (Nat × Nat)
  | .alnum => [(0x30, 0x39), (0x41, 0x5A), (0x61, 0x7A)]
  | .alpha => [(0x41, 0x5A), (0x61, 0x7A)]
  | .ascii => [(0x00, 0x7F)]
  | .blank => [(0x09, 0x09), (0x20, 0x20)]
  | .cntrl => [(0x00, 0x1F), (0x7F, 0x7F)]
  | .digit => [(0x30, 0x39)]
  | .graph => [(0x21, 0x7E)]
  | .lower => [(0x61, 0x7A)]
  | .print => [(0x20, 0x7E)]
  | .punct => [(0x21, 0x2F), (0x3A, 0x40), (0x5B, 0x60), (0x7B, 0x7E)]
  | .space => [(0x09, 0x0D), (0x20, 0x20)]
  | .upper => [(0x41, 0x5A)]
  | .word => [(0x30, 0x39), (0x41, 0x5A), (0x5F, 0x5F), (0x61, 0x7A)]
  | .xdigit => [(0x30, 0x39), (0x41, 0x46), (0x61, 0x66)]

/-- The set of a short class in Unicode mode. -/
def ShortClass.unicodeSet : ShortClass → CodeSet
  | .digit => Category.decimalNumber
  | .space => Property.whiteSpace
  | .word => Property.word

/-- The set of a short class outside Unicode mode. -/
def ShortClass.asciiSet : ShortClass → CodeSet
  | .digit => ⟨AsciiClass.digit.ranges⟩
  | .space => ⟨AsciiClass.space.ranges⟩
  | .word => ⟨AsciiClass.word.ranges⟩

/-- Refuse a set of bytes that holds one beyond ASCII. -/
def asciiOnly (s : CodeSet) : Except Fault CodeSet :=
  if s.isBelow 128 then .ok s else .error .matchesNonText

/-- Close a set under case where case does not count. -/
def Flags.fold (fl : Flags) (s : CodeSet) : CodeSet :=
  if fl.caseInsensitive then
    if fl.unicode then CaseFold.close s else CaseFold.closeAscii s
  else s

/-- Fold a set, and negate it then.  Outside Unicode mode the complement is taken among
    bytes, and the result has to be ASCII. -/
def Flags.foldAndNegate (fl : Flags) (negated : Bool) (s : CodeSet) : Except Fault CodeSet :=
  let folded := fl.fold s
  if fl.unicode then .ok (if negated then folded.negate else folded)
  else asciiOnly (if negated then CodeSet.complement 255 folded else folded)

/-- The set of a short class. -/
def Flags.shortSet (fl : Flags) (kind : ShortClass) (negated : Bool) : Except Fault CodeSet :=
  if fl.unicode then
    .ok (if negated then kind.unicodeSet.negate else kind.unicodeSet)
  else asciiOnly (if negated then CodeSet.complement 255 kind.asciiSet else kind.asciiSet)

/-- The class that a query finds. -/
def UnicodeQuery.find? : UnicodeQuery → Option CodeSet
  | .letter c => classNamed? (String.ofList [c])
  | .name label => classNamed? label
  | .property label value => classWithValue? label value

/-- The set of a Unicode class. -/
def Flags.unicodeClass (fl : Flags) (query : UnicodeQuery) (negated : Bool) :
    Except Fault CodeSet :=
  if fl.unicode then
    match query.find? with
    | some s => fl.foldAndNegate negated s
    | none => .error .unknownProperty
  else .error .unicodeNotAllowed

/-- The code point of a letter inside brackets. -/
def Flags.letterCode (fl : Flags) (l : Letter) : Except Fault Nat :=
  if fl.unicode || l.char.toNat < 128 then .ok l.char.toNat
  else if l.byteForm then .error .matchesNonText
  else .error .unicodeNotAllowed

/-- The set of the inside of a bracketed class. -/
def Flags.classSet (fl : Flags) : ClassTree → Except Fault CodeSet
  | .nothing => .ok .empty
  | .letter l => do return .single (← fl.letterCode l)
  | .range first last => do
    let s := CodeSet.range (← fl.letterCode first) (← fl.letterCode last)
    return if s.isBelow 0xD800 then s else s.inter .characters
  | .ascii kind negated => fl.foldAndNegate negated ⟨kind.ranges⟩
  | .short kind negated => fl.shortSet kind negated
  | .unicode query negated => fl.unicodeClass query negated
  | .bracketed negated inner => do fl.foldAndNegate negated (← fl.classSet inner)
  | .join first rest => do return (← fl.classSet first).union (← fl.classSet rest)
  | .combine op left right => do
    let l := fl.fold (← fl.classSet left)
    let r := fl.fold (← fl.classSet right)
    return match op with
      | .inter => l.inter r
      | .diff => l.diff r
      | .symmDiff => l.symmDiff r

/-! ## 3. Leaves -/

/-- A literal character, as a set where case does not count. -/
def Flags.letter (fl : Flags) (l : Letter) : Except Fault Expr :=
  if !fl.unicode && l.byteForm && 128 ≤ l.char.toNat then .error .matchesNonText
  else if fl.caseInsensitive then
    if fl.unicode then
      match CaseFold.classOf? l.char.toNat with
      | some cls => .ok (.ofSet (.ofRanges (cls.map fun n => (n, n))))
      | none => .ok (.literal [l.char])
    else .ok (.ofSet (CaseFold.closeAscii (.single l.char.toNat)))
  else .ok (.literal [l.char])

/-- The characters that a dot matches. -/
def Flags.dot (fl : Flags) : Except Fault Expr :=
  if fl.unicode then
    .ok (.set (
      if fl.dotAll then CodeSet.characters
      else if fl.crlf then (CodeSet.ofRanges [(0x0A, 0x0A), (0x0D, 0x0D)]).negate
      else (CodeSet.single 0x0A).negate))
  else .error .matchesNonText

/-- What an assertion means. -/
def Flags.look (fl : Flags) : Assertion → Look
  | .lineStart =>
    if fl.multiLine then if fl.crlf then .lineStartCrlf else .lineStart else .textStart
  | .lineEnd => if fl.multiLine then if fl.crlf then .lineEndCrlf else .lineEnd else .textEnd
  | .textStart => .textStart
  | .textEnd => .textEnd
  | .wordEdge => .word .edge fl.unicode
  | .notWordEdge => .word .noEdge fl.unicode
  | .wordStart => .word .start fl.unicode
  | .wordEnd => .word .stop fl.unicode
  | .wordStartHalf => .word .startHalf fl.unicode
  | .wordEndHalf => .word .stopHalf fl.unicode

/-! ## 4. Trees -/

/-- What lowering a tree yields: the branches of the tree, the flags in force after it,
    and the number of the next group. -/
structure Lowered where
  branches : List Expr
  flags : Flags
  next : Nat
deriving Repr

/-- A result with one branch. -/
def Lowered.one (e : Expr) (flags : Flags) (next : Nat) : Lowered := ⟨[e], flags, next⟩

/-- The expression of a result. -/
def Lowered.expr (r : Lowered) : Expr := Expr.alternation r.branches

/-- Lower a tree. -/
def lower (fl : Flags) (next : Nat) : Tree → Except Fault Lowered
  | .empty => .ok (.one .empty fl next)
  | .settings fs => .ok (.one .empty (fl.apply fs) next)
  | .letter l => do return .one (← fl.letter l) fl next
  | .dot => do return .one (← fl.dot) fl next
  | .assertion a => .ok (.one (.look (fl.look a)) fl next)
  | .short kind negated => do return .one (.ofSet (← fl.shortSet kind negated)) fl next
  | .unicode query negated => do return .one (.ofSet (← fl.unicodeClass query negated)) fl next
  | .bracketed negated inner => do
    return .one (.ofSet (← fl.foldAndNegate negated (← fl.classSet inner))) fl next
  | .repeated min max greedy body => do
    let r ← lower fl next body
    return .one (Expr.repetition min max (greedy != r.flags.swapGreed) r.expr) r.flags r.next
  | .group (.capture _) body => do
    let r ← lower fl (next + 1) body
    return .one (.capture next r.expr) fl r.next
  | .group (.plain fs) body => do
    let r ← lower (fl.apply fs) next body
    return .one r.expr fl r.next
  | .cat first rest => do
    let a ← lower fl next first
    let b ← lower a.flags a.next rest
    return .one (Expr.concat [a.expr, b.expr]) b.flags b.next
  | .either first rest => do
    let a ← lower fl next first
    let b ← lower a.flags a.next rest
    return ⟨a.expr :: b.branches, b.flags, b.next⟩

/-- The expression of a tree.  Groups are numbered from 1. -/
def Tree.expr (t : Tree) : Except Fault Expr := do
  return (← lower {} 1 t).expr

end Wayfinder.Regex
