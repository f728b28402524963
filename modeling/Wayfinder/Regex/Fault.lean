/-
  Wayfinder/Regex/Fault.lean
  ==========================
  **Why a text is no usable regular expression.**
-/

namespace Wayfinder.Regex

/-- The ways in which a text fails to denote a regular expression. -/
inductive Fault where
  /-- The text does not follow the grammar. -/
  | malformed
  /-- Groups, classes and repetitions are nested more deeply than the limit. -/
  | nestedTooDeeply
  /-- A Unicode class names no known property or value. -/
  | unknownProperty
  /-- A Unicode class or a character beyond ASCII stands where only ASCII is in force. -/
  | unicodeNotAllowed
  /-- The expression could match bytes that are no text. -/
  | matchesNonText
  /-- The automaton of the expression needs more memory than the limit. -/
  | tooLarge
deriving DecidableEq, Repr

/-- The reason in words. -/
def Fault.message : Fault → String
  | .malformed => "the expression does not follow the grammar"
  | .nestedTooDeeply => "the expression is nested too deeply"
  | .unknownProperty => "the Unicode property or value is not known"
  | .unicodeNotAllowed => "Unicode is not allowed here"
  | .matchesNonText => "the expression can match bytes that are no text"
  | .tooLarge => "the compiled expression exceeds the size limit"

end Wayfinder.Regex
