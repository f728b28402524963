/-
  Wayfinder/Json/Value.lean
  =========================
  **JSON documents.**

  A document keeps its members in order, and repeated names as well, since a reader of
  records has to notice them.  Of numbers only the natural ones matter here; all others
  are one.  Escapes can spell a text that is none, such as half of a surrogate pair;
  such a text is kept as a missing one, because it does no harm where nobody looks.
-/

namespace Wayfinder

/-- A JSON document. -/
inductive Json where
  | null
  | bool (b : Bool)
  | natural (n : Nat)
  /-- A number that is negative, or has a fraction or an exponent. -/
  | otherNumber
  | string (text : Option String)
  | array (items : List Json)
  | object (members : List (Option String × Json))
deriving Inhabited, Repr

namespace Json

/-- A text. -/
def ofText (s : String) : Json := .string (some s)

/-- A text, or nothing. -/
def ofText? : Option String → Json
  | some s => ofText s
  | none => .null

/-- An array of texts. -/
def ofTexts (ss : List String) : Json := .array (ss.map ofText)

/-- An array of numbers. -/
def ofNaturals (ns : List Nat) : Json := .array (ns.map natural)

/-- An object with the given members. -/
def record (members : List (String × Json)) : Json :=
  .object (members.map fun m => (some m.1, m.2))

end Json

end Wayfinder
