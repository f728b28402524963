/-
  Wayfinder/Text/Blank.lean
  =========================
  **Blank characters and trimming.**

  A blank is a character of the Unicode property White_Space.  Route patterns may
  hold none, request lines and environment values are read without those at their
  two ends, and extended regular expressions skip them.
-/

namespace Wayfinder.Text

/-! ## 1. The class -/

/-- A blank is one of the twenty-five characters with the property White_Space. -/
def isBlank (c : Char) : Bool :=
  let n := c.toNat
  (9 ≤ n && n ≤ 13) || n == 0x20 || n == 0x85 || n == 0xA0 || n == 0x1680 ||
    (0x2000 ≤ n && n ≤ 0x200A) || n == 0x2028 || n == 0x2029 || n == 0x202F ||
    n == 0x205F || n == 0x3000

/-! ## 2. Trimming -/

/-- Drop the blanks at both ends. -/
def trimChars (cs : List Char) : List Char :=
  ((cs.dropWhile isBlank).reverse.dropWhile isBlank).reverse

/-- Drop the blanks at both ends of a text. -/
def trim (s : String) : String := String.ofList (trimChars s.toList)

/-- Lower the ASCII letters and keep every other character. -/
def asciiLower (s : String) : String := String.ofList (s.toList.map Char.toLower)

end Wayfinder.Text
