/-
  Wayfinder/Route.lean
  ====================
  **Finished routes.**

  A route is what a declaration amounts to once its optional wildcards are expanded:
  its variants with their expressions, the handlers bound to methods, and what else was
  declared.  A route without handlers answers every method.
-/
import Wayfinder.Method
import Wayfinder.Pattern.Wildcards
import Wayfinder.Pattern.Anchored

namespace Wayfinder

open Wayfinder.Pattern

/-! ## 1. Handlers -/

/-- A handler bound to a method.  `derived` marks the one for HEAD that comes from GET. -/
structure Binding where
  handler : String
  derived : Bool
deriving DecidableEq, Repr

/-- Handlers by method, in the order of the methods. -/
abbrev Bindings := List (Method × Binding)

namespace Bindings

/-- The binding of a method. -/
def get? (bs : Bindings) (m : Method) : Option Binding :=
  (bs.find? fun b => b.1 == m).map (·.2)

/-- Whether a method is bound. -/
def has (bs : Bindings) (m : Method) : Bool := (get? bs m).isSome

/-- Bind a method, in place of an earlier binding of it. -/
def insert (m : Method) (b : Binding) : Bindings → Bindings
  | [] => [(m, b)]
  | (n, c) :: rest =>
    if m.rank < n.rank then (m, b) :: (n, c) :: rest
    else if m = n then (m, b) :: rest
    else (n, c) :: insert m b rest

/-- HEAD is answered by the handler of GET, unless it has its own. -/
def withHead (bs : Bindings) : Bindings :=
  match get? bs .get with
  | some b => if has bs .head then bs else insert .head ⟨b.handler, true⟩ bs
  | none => bs

end Bindings

/-! ## 2. Routes -/

/-- A finished route. -/
structure Route where
  /-- The pattern as it was declared. -/
  uri : String
  name : Option String
  wildcards : Wildcards
  /-- The fragment of each wildcard, by position. -/
  constraints : List String
  variants : List AnchoredVariant
  methods : Bindings
  middlewares : List String
  /-- Where the route was declared. -/
  provenance : Option String
deriving DecidableEq, Repr

namespace Route

/-- Whether the pattern has wildcards. -/
def hasWildcards (r : Route) : Bool := !r.wildcards.isEmpty

/-- The kind of a route, in a word. -/
def kind (r : Route) : String := if r.hasWildcards then "dynamic" else "static"

/-- The fragment of the wildcard with a name. -/
def constraint? (r : Route) (name : String) : Option String :=
  (r.wildcards.indexOf? name).bind fun i => r.constraints[i]?

/-- The handler for a method. -/
def handler? (r : Route) (m : Method) : Option String := (Bindings.get? r.methods m).map (·.handler)

/-- Whether the route answers a method. -/
def answers (r : Route) (m : Method) : Bool := r.methods.isEmpty || Bindings.has r.methods m

/-- Whether two routes can answer a common method. -/
def sharesMethod (r s : Route) : Bool :=
  r.methods.isEmpty || s.methods.isEmpty || r.methods.any fun b => Bindings.has s.methods b.1

end Route

end Wayfinder
