/-
  Wayfinder/Pattern/Wildcards.lean
  ================================
  **The wildcards of a pattern, and its positional form.**

  Extraction numbers the wildcards of a pattern from the left and writes each as its
  position: `/user/{id}/{slug?}` becomes `/user/{0}/{1}` with the names `id`, `slug`
  and the flags *mandatory*, *optional*.  A name may stand at one position only.
-/
import Wayfinder.RouteError
import Wayfinder.Pattern.Token

namespace Wayfinder.Pattern

/-! ## 1. The result of extraction -/

/-- The wildcards of one pattern, indexed by position. -/
structure Wildcards where
  /-- The pattern with every wildcard written as its position. -/
  positionalForm : String
  /-- The names, in order of appearance. -/
  names : List String
  /-- `true` where the wildcard at that position may be absent. -/
  optional : List Bool
deriving DecidableEq, Repr

namespace Wildcards

/-- How many wildcards there are. -/
def size (ws : Wildcards) : Nat := ws.names.length

/-- Whether there are none. -/
def isEmpty (ws : Wildcards) : Bool := ws.names.isEmpty

/-- The position of a name. -/
def indexOf? (ws : Wildcards) (name : String) : Option Nat := ws.names.findIdx? (· == name)

end Wildcards

/-- The positions at which a list of flags is `true`, counting from `start`. -/
def flaggedFrom (start : Nat) : List Bool → List Nat
  | [] => []
  | true :: flags => start :: flaggedFrom (start + 1) flags
  | false :: flags => flaggedFrom (start + 1) flags

/-- The positions of the optional wildcards, ascending. -/
def Wildcards.optionalPositions (ws : Wildcards) : List Nat := flaggedFrom 0 ws.optional

/-! ## 2. Extraction -/

/-- The first wildcard whose name stands in `seen` or earlier in the list. -/
def firstRepeated? (seen : List String) : List Wildcard → Option String
  | [] => none
  | w :: ws => if seen.contains w.name then some w.name else firstRepeated? (w.name :: seen) ws

/-- Write pieces down with each wildcard as its position, counting from `start`. -/
def positionalText (start : Nat) : List Piece → List Char
  | [] => []
  | .char c :: ps => c :: positionalText start ps
  | .wildcard _ :: ps => positionToken start ++ positionalText (start + 1) ps

/-- Number the wildcards of a pattern.  Fails when a name repeats an earlier one,
    optional or not. -/
def extract (text : String) : Except RouteError Wildcards :=
  let ps := pieces text
  let ws := wildcardsIn ps
  match firstRepeated? [] ws with
  | some name => .error (.duplicateWildcard text name)
  | none =>
    .ok
      { positionalForm := String.ofList (positionalText 0 ps)
        names := ws.map (·.name)
        optional := ws.map (·.optional) }

end Wayfinder.Pattern
