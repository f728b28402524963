/-
  Wayfinder/Pattern/Grammar.lean
  ==============================
  **Which texts are patterns.**

  The rules of raw text are checked together, so that one error can list every broken
  one.  Only then are braces looked at: a positional token in declared text is refused
  first, and after that the braces have to pair up to well-formed wildcard tokens.
-/
import Wayfinder.Text.Blank
import Wayfinder.RouteError
import Wayfinder.Pattern.Token

namespace Wayfinder.Pattern

/-! ## 1. The rules of raw text -/

/-- Whether two copies of `c` stand side by side. -/
def hasDoubled (c : Char) : List Char → Bool
  | a :: b :: rest => (a == c && b == c) || hasDoubled c (b :: rest)
  | _ => false

/-- Whether a text keeps a rule. -/
def PathRule.holds (cs : List Char) : PathRule → Bool
  | .leadingSlash => cs.head? == some '/'
  | .singleSlashes => !hasDoubled '/' cs
  | .noBackslash => !cs.contains '\\'
  | .singleBraces => !(hasDoubled openBrace cs || hasDoubled closeBrace cs)
  | .noBlank => !cs.any Text.isBlank

/-- The rules, in the order in which a message lists them. -/
def pathRules : List PathRule :=
  [.leadingSlash, .singleSlashes, .noBackslash, .singleBraces, .noBlank]

/-- The rules that a text breaks. -/
def brokenRules (cs : List Char) : List PathRule :=
  pathRules.filter fun rule => !PathRule.holds cs rule

/-! ## 2. Braces -/

/-- Whether a pattern holds any brace. -/
def hasBraces (text : String) : Bool :=
  text.toList.any fun c => c == openBrace || c == closeBrace

/-- The text of the first positional token. -/
def firstPositional? (text : String) : Option String :=
  (places text).findSome? fun
    | .char _ => none
    | .digits ds => some (String.ofList (Place.digits ds).text)

/-! ## 3. Validation -/

/-- Accept a text that is a pattern, or say what is wrong with it. -/
def validate (text : String) : Except RouteError Unit :=
  match brokenRules text.toList with
  | r :: rs => .error (.invalidPath text (r :: rs))
  | [] =>
    if !hasBraces text then .ok ()
    else
      match firstPositional? text with
      | some token => .error (.reservedWildcard text token)
      | none =>
        let opened := text.toList.count openBrace
        let closed := text.toList.count closeBrace
        let tokens := (wildcardsIn (pieces text)).length
        if opened ≠ closed ∨ opened ≠ tokens then
          .error (.unbalancedBraces text opened closed tokens)
        else .ok ()

end Wayfinder.Pattern
