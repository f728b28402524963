/-
  Wayfinder/Json/Writer.lean
  ==========================
  **Writing JSON.**

  Documents are written over several lines, each level two spaces further in; an empty
  array or object is written in place.
-/
import Wayfinder.Json.Value

namespace Wayfinder.Json

/-! ## 1. Texts -/

/-- A hexadecimal digit, in lower case. -/
def hexDigit (n : Nat) : Char := if n < 10 then Char.ofNat (48 + n) else Char.ofNat (87 + n)

/-- A character inside quotes.  Quotes, backslashes and control characters are escaped,
    some of the latter by a letter. -/
def quotedChar (c : Char) : List Char :=
  if c = '"' then ['\\', '"']
  else if c = '\\' then ['\\', '\\']
  else if c = '\n' then ['\\', 'n']
  else if c = '\r' then ['\\', 'r']
  else if c = '\t' then ['\\', 't']
  else if c = '\x08' then ['\\', 'b']
  else if c = '\x0c' then ['\\', 'f']
  else if c.toNat < 32 then
    ['\\', 'u', '0', '0', hexDigit (c.toNat / 16), hexDigit (c.toNat % 16)]
  else [c]

/-- A text in quotes. -/
def quoted (s : String) : List Char := '"' :: s.toList.flatMap quotedChar ++ ['"']

/-! ## 2. Documents -/

/-- A line break, and the indentation of the line after it. -/
def newline (level : Nat) : List Char := '\n' :: List.replicate (2 * level) ' '

mutual

/-- A document whose first line stands at a level. -/
def write (level : Nat) : Json → List Char
  | .null => "null".toList
  | .bool b => (if b then "true" else "false").toList
  | .natural n => (toString n).toList
  | .otherNumber => "null".toList
  | .string text => quoted (text.getD "")
  | .array [] => ['[', ']']
  | .array (j :: js) =>
    '[' :: newline (level + 1) ++ write (level + 1) j ++ writeItems (level + 1) js ++
      newline level ++ [']']
  | .object [] => ['\x7b', '\x7d']
  | .object ((k, j) :: ms) =>
    '\x7b' :: newline (level + 1) ++ quoted (k.getD "") ++ ':' :: ' ' :: write (level + 1) j ++
      writeMembers (level + 1) ms ++ newline level ++ ['\x7d']

/-- The items after the first. -/
def writeItems (level : Nat) : List Json → List Char
  | [] => []
  | j :: js => ',' :: newline level ++ write level j ++ writeItems level js

/-- The members after the first. -/
def writeMembers (level : Nat) : List (Option String × Json) → List Char
  | [] => []
  | (k, j) :: ms =>
    ',' :: newline level ++ quoted (k.getD "") ++ ':' :: ' ' :: write level j ++
      writeMembers level ms

end

/-- The text of a document. -/
def render (j : Json) : String := String.ofList (write 0 j)

end Wayfinder.Json
