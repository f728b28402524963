/-
  Wayfinder/Regex/Escape.lean
  ===========================
  **Reading escapes, flags and counts.**

  The small readers that the grammar of expressions is put together from.  Each takes
  the characters that follow and returns what it read with the characters left over.
  Where the flag `x` is in force (`extended`), blanks and comments between the
  characters of an escape do not count.
-/
import Wayfinder.Text.Blank
import Wayfinder.Text.Digits
import Wayfinder.Unicode.CodeSet
import Wayfinder.Unicode.Category
import Wayfinder.Unicode.Property
import Wayfinder.Regex.Fault
import Wayfinder.Regex.Tree

namespace Wayfinder.Regex

open Wayfinder.Text (isBlank)

/-! ## 1. Blanks and comments -/

/-- Drop blanks and comments.  A comment runs from `#` to the end of the line. -/
def dropComments (inComment : Bool) : List Char → List Char
  | [] => []
  | c :: cs =>
    if inComment then dropComments (c != '\n') cs
    else if isBlank c then dropComments false cs
    else if c = '#' then dropComments true cs
    else c :: cs

/-- Drop blanks and comments where they do not count. -/
def skipBlanks (extended : Bool) (cs : List Char) : List Char :=
  if extended then dropComments false cs else cs

/-- The characters after the first, without blanks and comments that do not count. -/
def advance (extended : Bool) (cs : List Char) : List Char := skipBlanks extended cs.tail

/-- The character that counts next.  Looking ahead passes blanks and the mark of one
    comment, but not the text of the comment. -/
def peekPastBlanks (extended : Bool) (cs : List Char) : Option Char :=
  if extended then
    match cs.dropWhile isBlank with
    | '#' :: comment => ((comment.dropWhile isBlank).head?).or cs.head?
    | c :: _ => some c
    | [] => cs.head?
  else cs.head?

/-! ## 2. Character classes of the grammar -/

/-- The characters with a meaning of their own, which an escape makes literal. -/
def isMeta (c : Char) : Bool :=
  ['\\', '.', '+', '*', '?', '(', ')', '|', '[', ']', '\x7b', '\x7d', '^', '$', '#', '&', '-',
    '~'].contains c

/-- The characters that may be escaped to stand for themselves: ASCII, but no letters,
    digits or angle brackets. -/
def isEscapable (c : Char) : Bool :=
  isMeta c || (c.toNat < 128 && !c.isAlphanum && c != '<' && c != '>')

/-- The character with a number, if there is one. -/
def charOfNat? (n : Nat) : Option Char :=
  if h : n.isValidChar then some (Char.ofNatAux n h) else none

/-- A group name starts with a letter or an underscore. -/
def isGroupNameStart (c : Char) : Bool :=
  c == '_' || Unicode.Property.alphabetic.has c

/-- A group name goes on with letters, numbers, underscores, dots and brackets. -/
def isGroupNameRest (c : Char) : Bool :=
  c == '_' || c == '.' || c == '[' || c == ']' || Unicode.Property.alphabetic.has c ||
    Unicode.Category.number.has c

/-! ## 3. Hexadecimal escapes -/

/-- Exactly `count` hexadecimal digits, added to `value`. -/
def hexDigits (extended : Bool) : Nat → Nat → List Char → Option (Nat × List Char)
  | 0, value, cs => some (value, cs)
  | _ + 1, _, [] => none
  | count + 1, value, c :: cs =>
    match Text.hexDigit? c with
    | some d => hexDigits extended count (16 * value + d) (skipBlanks extended cs)
    | none => none

/-- Hexadecimal digits up to a closing brace; at least one.  `any` tells whether a digit
    has been read; the first number bounds the steps. -/
def hexBraced (extended : Bool) : Nat → Bool → Nat → List Char → Option (Nat × List Char)
  | 0, _, _, _ => none
  | _ + 1, _, _, [] => none
  | fuel + 1, any, value, c :: cs =>
    if c = '\x7d' then if any then some (value, skipBlanks extended cs) else none
    else
      match Text.hexDigit? c with
      | some d => hexBraced extended fuel true (16 * value + d) (skipBlanks extended cs)
      | none => none

/-- A hexadecimal escape after its letter: braces, or as many digits as the letter asks
    for.  Two digits after `x` may stand for a byte. -/
def hexEscape (extended : Bool) (letter : Char) (cs : List Char) :
    Except Fault (Letter × List Char) :=
  let digits := if letter = 'x' then 2 else if letter = 'u' then 4 else 8
  let read :=
    match cs with
    | '\x7b' :: rest => (hexBraced extended (cs.length + 1) false 0 (skipBlanks extended rest)).map
        fun r => (r.1, false, r.2)
    | _ => (hexDigits extended digits 0 cs).map fun r => (r.1, letter == 'x', r.2)
  match read with
  | some (value, byteForm, rest) =>
    match charOfNat? value with
    | some c => .ok (⟨c, byteForm⟩, rest)
    | none => .error .malformed
  | none => .error .malformed

/-! ## 4. Unicode classes -/

/-- The characters up to a closing brace, and those after it. -/
def bracedName (extended : Bool) : Nat → List Char → Option (List Char × List Char)
  | 0, _ => none
  | _ + 1, [] => none
  | fuel + 1, c :: cs =>
    if c = '\x7d' then some ([], cs)
    else (bracedName extended fuel (skipBlanks extended cs)).map fun r => (c :: r.1, r.2)

/-- Cut a text at the first occurrence of `mark`. -/
def cutAt (mark : List Char) : List Char → Option (List Char × List Char)
  | [] => none
  | c :: cs =>
    if mark.isPrefixOf (c :: cs) then some ([], (c :: cs).drop mark.length)
    else (cutAt mark cs).map fun r => (c :: r.1, r.2)

/-- The query that a name in braces makes. -/
def queryOfName (name : List Char) : UnicodeQuery :=
  match ((cutAt ['!', '='] name).or (cutAt [':'] name)).or (cutAt ['='] name) with
  | some (property, value) => .property (String.ofList property) (String.ofList value)
  | none => .name (String.ofList name)

/-- A Unicode class after its `p`. -/
def unicodeQuery (extended : Bool) (cs : List Char) : Except Fault (UnicodeQuery × List Char) :=
  match cs with
  | [] => .error .malformed
  | '\x7b' :: rest =>
    match bracedName extended (rest.length + 1) (skipBlanks extended rest) with
    | some (name, rest) => .ok (queryOfName name, rest)
    | none => .error .malformed
  | c :: rest =>
    if c = '\\' then .error .malformed else .ok (.letter c, skipBlanks extended rest)

/-! ## 5. Escapes -/

/-- What an escape can stand for. -/
inductive Primitive where
  | letter (l : Letter)
  | assertion (a : Assertion)
  | short (kind : ShortClass) (negated : Bool)
  | unicode (query : UnicodeQuery) (negated : Bool)
deriving DecidableEq, Repr

/-- The letters of a named word edge up to the closing brace. -/
def edgeName (extended : Bool) : Nat → List Char → Option (List Char × List Char)
  | 0, _ => none
  | _ + 1, [] => none
  | fuel + 1, c :: cs =>
    if c = '\x7d' then some ([], cs)
    else if c.isAlpha || c == '-' then
      (edgeName extended fuel (skipBlanks extended cs)).map fun r => (c :: r.1, r.2)
    else none

/-- The characters after `\b`.  A brace may name a special word edge; if what it holds
    starts with neither a letter nor a hyphen, it is left for a repetition count. -/
def wordEdge (extended : Bool) (cs : List Char) : Except Fault (Assertion × List Char) :=
  match cs with
  | '\x7b' :: rest =>
    match skipBlanks extended rest with
    | [] => .error .malformed
    | c :: inner =>
      if c.isAlpha || c == '-' then
        match edgeName extended (inner.length + 2) (c :: inner) with
        | some (name, after) =>
          if name = "start".toList then .ok (.wordStart, after)
          else if name = "end".toList then .ok (.wordEnd, after)
          else if name = "start-half".toList then .ok (.wordStartHalf, after)
          else if name = "end-half".toList then .ok (.wordEndHalf, after)
          else .error .malformed
        | none => .error .malformed
      else .ok (.wordEdge, cs)
  | _ => .ok (.wordEdge, cs)

/-- The escape that follows a backslash. -/
def escape (extended : Bool) (cs : List Char) : Except Fault (Primitive × List Char) :=
  match cs with
  | [] => .error .malformed
  | c :: rest =>
    if c.isDigit then .error .malformed
    else if c = 'x' ∨ c = 'u' ∨ c = 'U' then do
      let (l, rest) ← hexEscape extended c (skipBlanks extended rest)
      return (.letter l, rest)
    else if c = 'p' ∨ c = 'P' then do
      let (query, rest) ← unicodeQuery extended (skipBlanks extended rest)
      return (.unicode query (c == 'P'), rest)
    else if isEscapable c then .ok (.letter { char := c }, rest)
    else
      match c with
      | 'd' => .ok (.short .digit false, rest)
      | 'D' => .ok (.short .digit true, rest)
      | 's' => .ok (.short .space false, rest)
      | 'S' => .ok (.short .space true, rest)
      | 'w' => .ok (.short .word false, rest)
      | 'W' => .ok (.short .word true, rest)
      | 'a' => .ok (.letter { char := '\x07' }, rest)
      | 'f' => .ok (.letter { char := '\x0c' }, rest)
      | 't' => .ok (.letter { char := '\t' }, rest)
      | 'n' => .ok (.letter { char := '\n' }, rest)
      | 'r' => .ok (.letter { char := '\r' }, rest)
      | 'v' => .ok (.letter { char := '\x0b' }, rest)
      | 'A' => .ok (.assertion .textStart, rest)
      | 'z' => .ok (.assertion .textEnd, rest)
      | 'b' => do
        let (a, rest) ← wordEdge extended rest
        return (.assertion a, rest)
      | 'B' => .ok (.assertion .notWordEdge, rest)
      | '<' => .ok (.assertion .wordStart, rest)
      | '>' => .ok (.assertion .wordEnd, rest)
      | _ => .error .malformed

/-! ## 6. Flags -/

/-- The flag of a letter. -/
def flagOf? : Char → Option Flag
  | 'i' => some .caseInsensitive
  | 'm' => some .multiLine
  | 's' => some .dotAll
  | 'U' => some .swapGreed
  | 'u' => some .unicode
  | 'R' => some .crlf
  | 'x' => some .extended
  | _ => none

/-- Flags up to `:` or `)`.  Flags after a hyphen are turned off; no flag stands twice,
    there is one hyphen at most, and a hyphen is followed by a flag.  The result tells
    whether the flags end in `)`. -/
def flagSettings (negated dangling : Bool) (read : FlagSettings) :
    List Char → Option (FlagSettings × Bool × List Char)
  | [] => none
  | c :: cs =>
    if c = ':' ∨ c = ')' then
      if dangling then none else some (read.reverse, c == ')', cs)
    else if c = '-' then
      if negated then none else flagSettings true true read cs
    else
      match flagOf? c with
      | some f =>
        if read.any fun r => r.1 == f then none
        else flagSettings negated false ((f, !negated) :: read) cs
      | none => none

/-- The value that flag settings give a flag, if they name it. -/
def FlagSettings.value? (fs : FlagSettings) (f : Flag) : Option Bool :=
  (fs.find? fun r => r.1 == f).map (·.2)

/-! ## 7. Counts -/

/-- Counts are 32-bit words. -/
def countBound : Nat := UInt32.size

/-- The digits of a count, blanks between them skipped where they do not count. -/
def countDigits (extended : Bool) : Nat → Nat → List Char → Nat × List Char
  | 0, value, cs => (value, cs)
  | fuel + 1, value, cs =>
    match cs with
    | c :: rest =>
      if c.isDigit then
        countDigits extended fuel (10 * value + (c.toNat - 48)) (skipBlanks extended rest)
      else (value, cs)
    | [] => (value, [])

/-- Blanks after a count, and comments where they do not count. -/
def blanksAfterCount (extended : Bool) : Nat → List Char → List Char
  | 0, cs => cs
  | fuel + 1, cs =>
    match cs with
    | c :: rest =>
      if isBlank c then blanksAfterCount extended fuel (skipBlanks extended rest) else cs
    | [] => []

/-- A count with blanks around it.  No digits give no number; a number that is no word is
    a fault. -/
def count (extended : Bool) (cs : List Char) : Except Fault (Option Nat × List Char) :=
  let start := cs.dropWhile isBlank
  let (value, rest) := countDigits extended (start.length + 1) 0 start
  let after := blanksAfterCount extended (rest.length + 1) rest
  if (start.head?.any Char.isDigit) then
    if value < countBound then .ok (some value, after) else .error .malformed
  else .ok (none, after)

/-- A repetition count after its opening brace: `n`, `n,` or `n,m`, with `n ≤ m`.  The
    closing brace is left in place. -/
def counts (extended : Bool) (cs : List Char) :
    Except Fault (Nat × Option Nat × List Char) := do
  let (low, rest) ← count extended cs
  match low with
  | none => .error .malformed
  | some n =>
    match rest with
    | ',' :: rest =>
      match skipBlanks extended rest with
      | [] => .error .malformed
      | '\x7d' :: _ => return (n, none, skipBlanks extended rest)
      | inner =>
        let (high, rest) ← count extended inner
        match high with
        | none => .error .malformed
        | some m => if n ≤ m then return (n, some m, rest) else .error .malformed
    | _ => return (n, some n, rest)

end Wayfinder.Regex
