/-
  Wayfinder/Yaml/Cursor.lean
  ==========================
  **A place in a YAML text.**

  Indentation is part of the language, so a cursor knows its line and column beside the
  text that is left.  A carriage return with a line feed is one line break, and so is
  each of the two alone, the next-line character and the two Unicode separators.
-/

namespace Wayfinder.Yaml

/-! ## 1. Classes of characters -/

/-- Whether a character may stand in a stream. -/
def isAllowed (c : Char) : Bool :=
  let n := c.toNat
  n == 0x09 || n == 0x0A || n == 0x0D || (0x20 ≤ n && n ≤ 0x7E) || n == 0x85 ||
    (0xA0 ≤ n && n ≤ 0xFFFD) || 0x10000 ≤ n

/-- Spaces and tabs. -/
def isBlank (c : Char) : Bool := c == ' ' || c == '\t'

/-- Line breaks. -/
def isBreak (c : Char) : Bool :=
  c == '\n' || c == '\r' || c == '\u0085' || c == '\u2028' || c == '\u2029'

/-- The characters of names: ASCII letters, digits, `_` and `-`. -/
def isNameChar (c : Char) : Bool := c.isAlphanum || c == '_' || c == '-'

/-- Whether a text is at its end, at a blank or at a line break. -/
def atGap : List Char → Bool
  | [] => true
  | c :: _ => isBlank c || isBreak c

/-- Whether a text is at its end or at a line break. -/
def atLineEnd : List Char → Bool
  | [] => true
  | c :: _ => isBreak c

/-- Whether a text starts with three equal characters and a gap. -/
def atTriple (c : Char) : List Char → Bool
  | a :: b :: d :: rest => a == c && b == c && d == c && atGap rest
  | _ => false

/-- Whether a text starts with the mark of the start or the end of a document. -/
def atDocumentMark (cs : List Char) : Bool := atTriple '-' cs || atTriple '.' cs

/-! ## 2. Cursors -/

/-- A place in a text, with what is left of the text. -/
structure Cursor where
  rest : List Char
  index : Nat
  line : Nat
  column : Nat
deriving DecidableEq, Repr

namespace Cursor

/-- The start of a text. -/
def start (cs : List Char) : Cursor := ⟨cs, 0, 0, 0⟩

/-- The next character. -/
def peek (cur : Cursor) : Option Char := cur.rest.head?

/-- Pass a character that is no line break. -/
def skip (cur : Cursor) : Cursor :=
  { cur with rest := cur.rest.tail, index := cur.index + 1, column := cur.column + 1 }

/-- Pass some characters that are no line breaks. -/
def skipN : Nat → Cursor → Cursor
  | 0, cur => cur
  | n + 1, cur => skipN n cur.skip

/-- Pass a line break, and tell how it counts in a text: as a line feed, but for the two
    separators, which stay. -/
def readBreak (cur : Cursor) : List Char × Cursor :=
  match cur.rest with
  | '\r' :: '\n' :: rest => (['\n'], ⟨rest, cur.index + 2, cur.line + 1, 0⟩)
  | c :: rest =>
    if c == '\u2028' || c == '\u2029' then ([c], ⟨rest, cur.index + 1, cur.line + 1, 0⟩)
    else if isBreak c then (['\n'], ⟨rest, cur.index + 1, cur.line + 1, 0⟩)
    else ([], cur)
  | [] => ([], cur)

/-- Pass a line break. -/
def skipBreak (cur : Cursor) : Cursor := cur.readBreak.2

/-- Pass the characters of a class that holds no line break. -/
def skipWhile (p : Char → Bool) (cur : Cursor) : Cursor :=
  skipN (cur.rest.takeWhile p).length cur

/-- Pass the characters of a class that holds no line break, and tell which. -/
def readWhile (p : Char → Bool) (cur : Cursor) : List Char × Cursor :=
  (cur.rest.takeWhile p, cur.skipWhile p)

/-- Pass a comment, if there is one. -/
def skipComment (cur : Cursor) : Cursor :=
  if cur.peek == some '#' then cur.skipWhile fun c => !isBreak c else cur

/-- Pass blanks and a comment and the line break after them. -/
def skipLineRest (cur : Cursor) : Option Cursor :=
  let cur := (cur.skipWhile isBlank).skipComment
  if atLineEnd cur.rest then some cur.skipBreak else none

end Cursor

end Wayfinder.Yaml
