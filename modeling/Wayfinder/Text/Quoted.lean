/-
  Wayfinder/Text/Quoted.lean
  ==========================
  **Texts in quotes, for people.**

  Messages show a text of unknown content in quotes.  What cannot be seen, or would join
  the character before it, is shown by its code point.
-/
import Wayfinder.Unicode.Category
import Wayfinder.Unicode.Property

namespace Wayfinder.Text

open Wayfinder.Unicode

/-- Whether a character is seen when it is printed. -/
def isPrintable (c : Char) : Bool :=
  c == ' ' || !(Category.other.has c || Category.separator.has c)

/-- A character by its code point. -/
def codePointEscape (c : Char) : List Char :=
  "\\u\x7b".toList ++ (Nat.toDigits 16 c.toNat) ++ ['\x7d']

/-- A character inside quotes. -/
def quotedChar (c : Char) : List Char :=
  match c with
  | '\x00' => ['\\', '0']
  | '\t' => ['\\', 't']
  | '\n' => ['\\', 'n']
  | '\r' => ['\\', 'r']
  | '"' => ['\\', '"']
  | '\\' => ['\\', '\\']
  | c =>
    if ' ' ≤ c ∧ c ≤ '~' then [c]
    else if Property.graphemeExtend.has c || !isPrintable c then codePointEscape c
    else [c]

/-- A text in quotes. -/
def quoted (s : String) : String := String.ofList ('"' :: s.toList.flatMap quotedChar ++ ['"'])

end Wayfinder.Text
