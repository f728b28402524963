/-
  Wayfinder/Manifest.lean
  =======================
  **Routes declared in a file.**

  A manifest lists declarations of routes; their order is the precedence of the routes.
  The methods of a declaration and its constraints are maps, which are gone through in
  the order of their keys.
-/
import Wayfinder.RouteError
import Wayfinder.Draft

namespace Wayfinder

/-! ## 1. Maps from texts to texts -/

/-- A map from texts to texts, in the order of the keys. -/
abbrev TextMap := List (String × String)

namespace TextMap

/-- Put a value at a key, in place of the one that is there. -/
def insert (key value : String) : TextMap → TextMap
  | [] => [(key, value)]
  | (k, v) :: rest =>
    if key < k then (key, value) :: (k, v) :: rest
    else if key = k then (key, value) :: rest
    else (k, v) :: insert key value rest

/-- The map of some pairs; of pairs with one key the last counts. -/
def ofPairs (pairs : List (String × String)) : TextMap :=
  pairs.foldl (fun m p => insert p.1 p.2 m) []

end TextMap

/-! ## 2. Declarations -/

/-- The declaration of one route. -/
structure Declaration where
  uri : String
  name : Option String
  /-- Handlers by method token. -/
  methods : TextMap
  /-- Fragments by wildcard name. -/
  constraints : TextMap
  middlewares : List String
deriving DecidableEq, Repr

/-- A list of declarations. -/
structure Manifest where
  routes : List Declaration
deriving DecidableEq, Repr

namespace Declaration

/-- The steps of a declaration. -/
def steps (d : Declaration) (provenance : String) : List Draft.Step :=
  .provenance provenance :: (d.name.map Draft.Step.name).toList ++
    d.methods.map (fun m => .methodToken m.1 m.2) ++
    d.constraints.map (fun c => .constraint c.1 c.2) ++
    d.middlewares.map .middleware

/-- The draft of a declaration. -/
def draft (d : Declaration) (provenance : String) : Except RouteError Draft :=
  Draft.build d.uri (d.steps provenance)

end Declaration

end Wayfinder
