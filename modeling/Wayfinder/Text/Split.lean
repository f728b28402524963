/-
  Wayfinder/Text/Split.lean
  =========================
  **Texts cut at a character.**
-/

namespace Wayfinder.Text

/-- The stretches of characters between the occurrences of a separator, of which there is
    one more than of these. -/
def stretches (separator : Char) : List Char → List (List Char)
  | [] => [[]]
  | c :: cs =>
    if c = separator then [] :: stretches separator cs
    else
      match stretches separator cs with
      | first :: rest => (c :: first) :: rest
      | [] => [[c]]

/-- The parts of a text between the occurrences of a separator. -/
def cutAt (separator : Char) (s : String) : List String :=
  (stretches separator s.toList).map String.ofList

end Wayfinder.Text
