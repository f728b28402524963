/-
  Wayfinder/Json/Decode.lean
  ==========================
  **From documents to data.**

  A record is written as an object, whose unknown members do not count and whose known
  ones may not repeat, or as an array of its fields in order.  A map is written as an
  object, and of members with one name the last counts.
-/
import Wayfinder.Json.Value

namespace Wayfinder.Json

variable {α κ : Type}

/-! ## 1. Plain values -/

/-- A text. -/
def asText : Json → Option String
  | .string text => text
  | _ => none

/-- A truth value. -/
def asBool : Json → Option Bool
  | .bool b => some b
  | _ => none

/-- A number below a bound. -/
def asNatural (bound : Nat) : Json → Option Nat
  | .natural n => if n < bound then some n else none
  | _ => none

/-- Something that may be missing. -/
def asOption (f : Json → Option α) : Json → Option (Option α)
  | .null => some none
  | j => (f j).map some

/-- A list. -/
def asList (f : Json → Option α) : Json → Option (List α)
  | .array items => items.mapM f
  | _ => none

/-- The members of an object, names and values decoded. -/
def asMembers (name : String → Option κ) (f : Json → Option α) : Json → Option (List (κ × α))
  | .object members =>
    members.mapM fun (k, j) => do return (← k.bind name, ← f j)
  | _ => none

/-! ## 2. Records -/

/-- What a record says of one of its fields. -/
structure Field where
  name : String
  /-- Whether an object may lack it. -/
  mayLack : Bool := false
  /-- Whether an array may end before it. -/
  mayEnd : Bool := false
deriving DecidableEq, Repr

/-- A field that has to be there. -/
def Field.needed (name : String) : Field := { name := name }

/-- A field with a default. -/
def Field.defaulted (name : String) : Field := { name := name, mayLack := true, mayEnd := true }

/-- A field whose absence an object may express by leaving it out. -/
def Field.optional (name : String) : Field := { name := name, mayLack := true }

/-- The values of the members with a name. -/
def valuesOf (members : List (Option String × Json)) (name : String) : List Json :=
  members.filterMap fun m => if m.1 = some name then some m.2 else none

/-- The value of a field in an object, if the field is there as often as it may be. -/
def memberField (members : List (Option String × Json)) (f : Field) : Option (Option Json) :=
  match valuesOf members f.name with
  | [] => if f.mayLack then some none else none
  | [j] => some (some j)
  | _ => none

/-- The values of fields in an array. -/
def itemFields : List Field → List Json → Option (List (Option Json))
  | [], [] => some []
  | [], _ :: _ => none
  | f :: fs, [] => if f.mayEnd then (itemFields fs []).map (none :: ·) else none
  | _ :: fs, j :: js => (itemFields fs js).map (some j :: ·)

/-- The values of the fields of a record. -/
def fields (fs : List Field) : Json → Option (List (Option Json))
  | .object members =>
    if members.all fun m => m.1.isSome then fs.mapM (memberField members) else none
  | .array items => itemFields fs items
  | _ => none

/-- A document without the items of an array after the first `n`. -/
def cutTo (n : Nat) : Json → Json
  | .array items => .array (items.take n)
  | j => j

/-- Decode a field, or take its default. -/
def orElse (default : α) (f : Json → Option α) : Option Json → Option α
  | some j => f j
  | none => some default

/-- Decode a field that is there. -/
def present (f : Json → Option α) (j : Option Json) : Option α := j.bind f

end Wayfinder.Json
