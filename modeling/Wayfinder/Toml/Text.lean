/-
  Wayfinder/Toml/Text.lean
  ========================
  **Blanks, comments and strings of TOML.**

  A string is basic, with escapes, or literal, without; each has a form of several
  lines, in three quotes, where a line break right after the opening quotes does not
  count and the closing quotes may follow up to two quotes of the text.
-/
import Wayfinder.Text.Digits

namespace Wayfinder.Toml

/-! ## 1. Blanks and comments -/

/-- Spaces and tabs. -/
def isBlank (c : Char) : Bool := c == ' ' || c == '\t'

/-- Skip blanks. -/
def skipBlanks (cs : List Char) : List Char := cs.dropWhile isBlank

/-- Whether a character may stand in comments and strings: no control character but the
    tab. -/
def isPlainChar (c : Char) : Bool := c == '\t' || (32 ≤ c.toNat && c.toNat != 127)

/-- What follows a line break.  A carriage return counts only before a line feed. -/
def afterBreak? : List Char → Option (List Char)
  | '\n' :: rest => some rest
  | '\r' :: '\n' :: rest => some rest
  | _ => none

/-- Skip blanks and a comment. -/
def skipComment (cs : List Char) : List Char :=
  match skipBlanks cs with
  | '#' :: rest => rest.dropWhile isPlainChar
  | cs => cs

/-- Skip to the next line; the rest of this one has to be blank or a comment. -/
def endOfLine? (cs : List Char) : Option (List Char) :=
  match skipComment cs with
  | [] => some []
  | cs => afterBreak? cs

/-- Skip blanks, comments and line breaks.  The number bounds the lines. -/
def skipSpace : Nat → List Char → List Char
  | 0, cs => cs
  | fuel + 1, cs =>
    let cs := skipComment cs
    match afterBreak? cs with
    | some rest => skipSpace fuel rest
    | none => cs

/-- Skip all space before the next token. -/
def skipAll (cs : List Char) : List Char := skipSpace (cs.length + 1) cs

/-! ## 2. Escapes -/

/-- The character that the first `count` digits of a text denote. -/
def hexChar? (count : Nat) (cs : List Char) : Option (Char × List Char) := do
  if cs.length < count then none
  else
    let n ← Text.digitsValue? 16 (cs.take count)
    if n.isValidChar then some (Char.ofNat n, cs.drop count) else none

/-- What an escape after its backslash stands for. -/
def escape? : List Char → Option (Char × List Char)
  | 'b' :: rest => some ('\x08', rest)
  | 't' :: rest => some ('\t', rest)
  | 'n' :: rest => some ('\n', rest)
  | 'f' :: rest => some ('\x0c', rest)
  | 'r' :: rest => some ('\r', rest)
  | 'e' :: rest => some ('\x1b', rest)
  | '"' :: rest => some ('"', rest)
  | '\\' :: rest => some ('\\', rest)
  | 'x' :: rest => hexChar? 2 rest
  | 'u' :: rest => hexChar? 4 rest
  | 'U' :: rest => hexChar? 8 rest
  | _ => none

/-! ## 3. Strings -/

/-- A basic string after its opening quote. -/
def basicString : Nat → List Char → Option (List Char × List Char)
  | 0, _ => none
  | fuel + 1, cs =>
    match cs with
    | '"' :: rest => some ([], rest)
    | '\\' :: rest => do
      let (c, rest) ← escape? rest
      let (text, rest) ← basicString fuel rest
      return (c :: text, rest)
    | c :: rest =>
      if isPlainChar c then do
        let (text, rest) ← basicString fuel rest
        return (c :: text, rest)
      else none
    | [] => none

/-- A literal string after its opening quote. -/
def literalString (cs : List Char) : Option (List Char × List Char) :=
  match cs.dropWhile fun c => isPlainChar c && c != '\'' with
  | '\'' :: rest => some (cs.takeWhile fun c => isPlainChar c && c != '\'', rest)
  | _ => none

/-- How many copies of a character a text starts with. -/
def countOf (q : Char) (cs : List Char) : Nat := (cs.takeWhile (· == q)).length

/-- Blanks and line breaks from a backslash at the end of a line up to the next text. -/
def skipContinuation (cs : List Char) : Option (List Char) :=
  (afterBreak? (skipBlanks cs)).map fun rest =>
    rest.dropWhile fun c => isBlank c || c == '\n' || c == '\r'

/-- A string of several lines after its opening quotes. -/
def longString (q : Char) : Nat → List Char → Option (List Char × List Char)
  | 0, _ => none
  | fuel + 1, cs =>
    let quotes := countOf q cs
    if 3 ≤ quotes then
      if 5 < quotes then none
      else some (List.replicate (quotes - 3) q, cs.drop quotes)
    else
      match cs with
      | '\r' :: '\n' :: rest => do
        let (text, rest) ← longString q fuel rest
        return ('\r' :: '\n' :: text, rest)
      | '\\' :: rest =>
        if q = '"' then
          match skipContinuation rest with
          | some rest => longString q fuel rest
          | none => do
            let (c, rest) ← escape? rest
            let (text, rest) ← longString q fuel rest
            return (c :: text, rest)
        else do
          let (text, rest) ← longString q fuel rest
          return ('\\' :: text, rest)
      | c :: rest =>
        if isPlainChar c || c == '\n' then do
          let (text, rest) ← longString q fuel rest
          return (c :: text, rest)
        else none
      | [] => none

/-- Drop a line break at the start. -/
def dropBreak (cs : List Char) : List Char := (afterBreak? cs).getD cs

/-- A string of any form, from its opening quote on. -/
def readString (cs : List Char) : Option (String × List Char) :=
  let result := match cs with
    | '"' :: '"' :: '"' :: rest => longString '"' (rest.length + 1) (dropBreak rest)
    | '\'' :: '\'' :: '\'' :: rest => longString '\'' (rest.length + 1) (dropBreak rest)
    | '"' :: rest => basicString (rest.length + 1) rest
    | '\'' :: rest => literalString rest
    | _ => none
  result.map fun r => (String.ofList r.1, r.2)

/-! ## 4. Keys -/

/-- The characters of keys without quotes. -/
def isKeyChar (c : Char) : Bool := c.isAlphanum || c == '_' || c == '-'

/-- One part of a key. -/
def keyPart (cs : List Char) : Option (String × List Char) :=
  match cs with
  | '"' :: rest => (basicString (rest.length + 1) rest).map fun r => (String.ofList r.1, r.2)
  | '\'' :: rest => (literalString rest).map fun r => (String.ofList r.1, r.2)
  | _ =>
    let name := cs.takeWhile isKeyChar
    if name.isEmpty then none else some (String.ofList name, cs.dropWhile isKeyChar)

/-- A key: parts with dots between them. -/
def readKey : Nat → List Char → Option (List String × List Char)
  | 0, _ => none
  | fuel + 1, cs => do
    let (part, rest) ← keyPart (skipBlanks cs)
    match skipBlanks rest with
    | '.' :: rest =>
      let (parts, rest) ← readKey fuel rest
      return (part :: parts, rest)
    | rest => return ([part], rest)

end Wayfinder.Toml
