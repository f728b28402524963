/-
  Wayfinder/Regex/Compile.lean
  ============================
  **Usable regular expressions.**

  A text is compiled by reading it, settling its meaning and checking its size.  What
  passes can be searched for in any text, and reports what each group matched.
-/
import Wayfinder.Regex.Fault
import Wayfinder.Regex.Parser
import Wayfinder.Regex.Lower
import Wayfinder.Regex.Size
import Wayfinder.Regex.Match

namespace Wayfinder

/-- A regular expression that has been accepted. -/
structure Regex where
  expr : Regex.Expr
deriving DecidableEq, Repr

namespace Regex

/-- Accept a text as a regular expression, or say why it is none. -/
def compileChars [SizeLimit] (cs : List Char) : Except Fault Regex := do
  let expr ← (← parse cs).expr
  if SizeLimit.allows expr then return ⟨expr⟩ else .error .tooLarge

/-- Accept a text as a regular expression, or say why it is none. -/
def compile [SizeLimit] (text : String) : Except Fault Regex := compileChars text.toList

/-- The number of the last capturing group; groups count from 1. -/
def groupCount (r : Regex) : Nat := r.expr.lastGroup

/-- What the groups of a match hold. -/
structure Captures where
  text : List Char
  marks : Marks
deriving DecidableEq, Repr

/-- The leftmost match in a text. -/
def captures? (r : Regex) (text : List Char) : Option Captures :=
  (r.expr.search text).map fun marks => ⟨text, marks⟩

/-- What a group matched, if it took part in the match. -/
def Captures.group? (caps : Captures) (index : Nat) : Option (List Char) :=
  (groupSpan? caps.marks index).map fun (a, b) => (caps.text.drop a).take (b - a)

end Regex

end Wayfinder
