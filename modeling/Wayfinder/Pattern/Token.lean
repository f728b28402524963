/-
  Wayfinder/Pattern/Token.lean
  ============================
  **The two kinds of token in a pattern, and reading a text as pieces.**

  A declared pattern holds *wildcard tokens* `{name}` and `{name?}`; after extraction
  it holds *positional tokens* `{0}`, `{1}`, ….  Reading a text from the left, every
  brace that opens a token of the kind at hand takes the whole token, and every other
  character stands for itself.  The reading loses nothing: writing the pieces down
  again gives the text back.
-/

namespace Wayfinder.Pattern

/-! ## 1. Character classes and limits -/

/-- The brace that opens a token. -/
def openBrace : Char := '\x7b'

/-- The brace that closes a token. -/
def closeBrace : Char := '\x7d'

/-- A wildcard name starts with an ASCII letter or an underscore. -/
def isNameStart (c : Char) : Bool := c.isAlpha || c == '_'

/-- A wildcard name goes on with ASCII letters, digits and underscores. -/
def isNameRest (c : Char) : Bool := c.isAlphanum || c == '_'

/-- Positions are machine words: a number is a position when it is below this bound. -/
def wordBound : Nat := UInt64.size

/-! ## 2. Numerals -/

/-- The decimal digits of a number. -/
def digitsOf (n : Nat) : List Char := (toString n).toList

/-- The number that a row of decimal digits denotes. -/
def valueOfDigits (ds : List Char) : Nat :=
  ds.foldl (fun n d => 10 * n + (d.toNat - 48)) 0

/-! ## 3. Wildcard tokens -/

/-- A declared wildcard: its name, and whether it may be absent. -/
structure Wildcard where
  name : String
  optional : Bool
deriving DecidableEq, Repr

/-- A wildcard as it is written. -/
def Wildcard.token (w : Wildcard) : List Char :=
  openBrace :: w.name.toList ++ (if w.optional then ['?', closeBrace] else [closeBrace])

/-- A declared pattern is a row of characters and wildcards. -/
inductive Piece where
  | char (c : Char)
  | wildcard (w : Wildcard)
deriving DecidableEq, Repr

/-- The text of a piece. -/
def Piece.text : Piece → List Char
  | .char c => [c]
  | .wildcard w => w.token

/-- Read a wildcard whose opening brace has been read: a name, perhaps `?`, and the
    closing brace.  The number tells how many characters that took. -/
def wildcardAfterBrace (cs : List Char) : Option (Wildcard × Nat) :=
  match cs with
  | [] => none
  | c :: rest =>
    if isNameStart c then
      let name := c :: rest.takeWhile isNameRest
      match rest.dropWhile isNameRest with
      | '?' :: d :: _ =>
        if d = closeBrace then some (⟨String.ofList name, true⟩, name.length + 2) else none
      | d :: _ =>
        if d = closeBrace then some (⟨String.ofList name, false⟩, name.length + 1) else none
      | [] => none
    else none

/-- The pieces of a text, after `skip` characters that belong to the piece before. -/
def scanPieces : Nat → List Char → List Piece
  | _, [] => []
  | skip + 1, _ :: cs => scanPieces skip cs
  | 0, c :: cs =>
    if c = openBrace then
      match wildcardAfterBrace cs with
      | some (w, taken) => .wildcard w :: scanPieces taken cs
      | none => .char c :: scanPieces 0 cs
    else .char c :: scanPieces 0 cs

/-- The pieces of a declared pattern, from the left. -/
def pieces (text : String) : List Piece := scanPieces 0 text.toList

/-- The wildcards among the pieces, in order. -/
def wildcardsIn (ps : List Piece) : List Wildcard :=
  ps.filterMap fun
    | .char _ => none
    | .wildcard w => some w

/-! ## 4. Positional tokens -/

/-- The token of a position. -/
def positionToken (i : Nat) : List Char := openBrace :: digitsOf i ++ [closeBrace]

/-- A positional form is a row of characters and digit tokens. -/
inductive Place where
  | char (c : Char)
  | digits (ds : List Char)
deriving DecidableEq, Repr

/-- The text of a place. -/
def Place.text : Place → List Char
  | .char c => [c]
  | .digits ds => openBrace :: ds ++ [closeBrace]

/-- The position that a digit token names; a number that is no machine word names none. -/
def Place.position? : Place → Option Nat
  | .char _ => none
  | .digits ds => if valueOfDigits ds < wordBound then some (valueOfDigits ds) else none

/-- Read the digits and the closing brace of a positional token. -/
def digitsAfterBrace (cs : List Char) : Option (List Char) :=
  match cs.takeWhile Char.isDigit, cs.dropWhile Char.isDigit with
  | d :: ds, c :: _ => if c = closeBrace then some (d :: ds) else none
  | _, _ => none

/-- The places of a text, after `skip` characters that belong to the place before. -/
def scanPlaces : Nat → List Char → List Place
  | _, [] => []
  | skip + 1, _ :: cs => scanPlaces skip cs
  | 0, c :: cs =>
    if c = openBrace then
      match digitsAfterBrace cs with
      | some ds => .digits ds :: scanPlaces (ds.length + 1) cs
      | none => .char c :: scanPlaces 0 cs
    else .char c :: scanPlaces 0 cs

/-- The places of a positional form, from the left. -/
def places (text : String) : List Place := scanPlaces 0 text.toList

/-- The positions of the digit tokens in a text, left to right. -/
def survivingPositions (text : String) : List Nat := (places text).filterMap Place.position?

end Wayfinder.Pattern
