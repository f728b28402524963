/-
  Wayfinder/Pattern/Constraint.lean
  =================================
  **Constraints on wildcards.**

  A wildcard may be bound to a fragment, a regular expression that its values have to
  match.  Each wildcard takes one fragment at most, and the fragment has to be usable
  on its own; a wildcard that is never bound has the default fragment.
-/
import Wayfinder.RouteError
import Wayfinder.Pattern.Wildcards
import Wayfinder.Regex.Compile

namespace Wayfinder.Pattern

/-- The fragment of a wildcard that is not bound. -/
def defaultFragment : String := "[A-Za-z0-9_%-]+"

/-- The fragments bound so far, by position. -/
structure Constraints where
  bound : List (Option String)
deriving DecidableEq, Repr

namespace Constraints

/-- Nothing is bound. -/
def unbound (ws : Wildcards) : Constraints := ⟨List.replicate ws.size none⟩

/-- The fragment bound to a position. -/
def get? (cs : Constraints) (i : Nat) : Option String := cs.bound[i]?.join

/-- Bind a fragment to the wildcard with a name.  An undeclared name is found first,
    then a wildcard that is bound already, then a fragment that does not compile. -/
def bind [Regex.SizeLimit] (cs : Constraints) (uri : String) (ws : Wildcards)
    (name fragment : String) : Except RouteError Constraints :=
  match ws.indexOf? name with
  | none => .error (.unknownWildcard uri name)
  | some i =>
    if (cs.get? i).isSome then .error (.duplicateConstraint uri name)
    else
      match Regex.compile fragment with
      | .error reason => .error (.invalidRegex uri name fragment reason)
      | .ok _ => .ok ⟨cs.bound.set i (some fragment)⟩

/-- The fragment of every position, the default where none is bound. -/
def fragments (cs : Constraints) : List String := cs.bound.map fun f => f.getD defaultFragment

end Constraints

end Wayfinder.Pattern
