/-
  Wayfinder/Registry.lean
  =======================
  **Registering routes.**

  Routes are registered one after the other and numbered from zero; the order is their
  precedence.  A name can be taken once, and a concrete pattern once for every method:
  two routes may share a pattern only if no method is answered by both.  Sealing closes
  the registry and makes a router of it.
-/
import Std.Data.HashMap.Basic
import Wayfinder.RouteError
import Wayfinder.Route
import Wayfinder.Draft
import Wayfinder.Router

namespace Wayfinder

open Wayfinder.Pattern

/-- The routes registered so far, with an index of names and one of patterns. -/
structure Registry where
  routes : Array Route
  names : Std.HashMap String Nat
  /-- For each pattern, the routes that have it as a variant, in order. -/
  patterns : Std.HashMap String (List Nat)

namespace Registry

variable [Regex.SizeLimit]

/-- No route yet. -/
def empty : Registry := ⟨#[], ∅, ∅⟩

/-- The number of routes. -/
def size (reg : Registry) : Nat := reg.routes.size

/-! ## 1. Conflicts -/

/-- The route that holds the name of a new one. -/
def nameHolder? (reg : Registry) (route : Route) : Option (String × Route) :=
  route.name.bind fun name =>
    (reg.names[name]?.bind fun i => reg.routes[i]?).map fun holder => (name, holder)

/-- The earliest route with a pattern that answers a method of a new one. -/
def patternHolder? (reg : Registry) (route : Route) (pattern : String) : Option Route :=
  ((reg.patterns[pattern]?.getD []).filterMap fun i => reg.routes[i]?).find? fun holder =>
    holder.sharesMethod route

/-- Why a route cannot be registered.  A taken name is found first, then the first
    variant that another route has. -/
def conflict? (reg : Registry) (route : Route) : Option RouteError :=
  match reg.nameHolder? route with
  | some (name, holder) => some (.duplicateName route.uri name holder.uri)
  | none =>
    route.variants.findSome? fun v =>
      (reg.patternHolder? route v.pattern).map fun holder =>
        .duplicateVariant route.uri v.pattern holder.uri

/-! ## 2. Registration -/

/-- Note that a route has a pattern. -/
def notePattern (i : Nat) (patterns : Std.HashMap String (List Nat)) (v : AnchoredVariant) :
    Std.HashMap String (List Nat) :=
  patterns.insert v.pattern (patterns[v.pattern]?.getD [] ++ [i])

/-- Register a finished route, and tell its number. -/
def register (reg : Registry) (route : Route) : Except RouteError (Registry × Nat) :=
  match reg.conflict? route with
  | some e => .error e
  | none =>
    let i := reg.size
    .ok
      ({ routes := reg.routes.push route
         names := match route.name with
           | some name => reg.names.insert name i
           | none => reg.names
         patterns := route.variants.foldl (notePattern i) reg.patterns }, i)

/-- Finish a draft and register it. -/
def add (reg : Registry) (d : Draft) : Except RouteError (Registry × Nat) := reg.register d.finish

/-- Declare, name, constrain and register a route at once. -/
def declare (reg : Registry) (uri : String) (name : Option String)
    (constraints : List (String × String)) : Except RouteError (Registry × Nat) := do
  let naming := (name.map Draft.Step.name).toList
  let d ← Draft.build uri (naming ++ constraints.map fun c => .constraint c.1 c.2)
  reg.add d

/-! ## 3. Sealing -/

/-- The rows of routes numbered from `i`: every variant of every route, in order. -/
def entriesFrom (i : Nat) : List Route → List Entry
  | [] => []
  | r :: rs => (r.variants.map fun v => ⟨v.regex, i, v.indices⟩) ++ entriesFrom (i + 1) rs

/-- Close the registry. -/
def toRouter (reg : Registry) : Except RouteError Router :=
  match Router.assemble reg.routes (entriesFrom 0 reg.routes.toList) with
  | .ok router => .ok router
  | .error f => .error (.invalidRegex f.uri f.variant f.regex f.reason)

end Registry

end Wayfinder
