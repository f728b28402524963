/-
  Wayfinder/Report.lean
  =====================
  **What commands show.**

  An inspection shows every route in a paragraph of its own, and the numbers of routes
  and rows at the end.  A resolution shows one line for each path.
-/
import Wayfinder.Route
import Wayfinder.Router

namespace Wayfinder

open Wayfinder.Pattern

/-! ## 1. Inspections -/

/-- Numbers in brackets. -/
def bracketed (ns : List Nat) : String := "[" ++ ", ".intercalate (ns.map toString) ++ "]"

/-- How the number of a route is shown. -/
def routeNumber (i : Nat) : String := "#" ++ toString i

/-- A binding on a line. -/
def bindingLine (m : Method) (b : Binding) : String :=
  "    " ++ m.token ++ " -> " ++ b.handler ++ (if b.derived then " (derived)" else "") ++ "\n"

/-- A variant on a line. -/
def variantLine (v : AnchoredVariant) : String :=
  "    " ++ v.pattern ++ "  " ++ v.regex ++ "  " ++ bracketed v.indices ++ "\n"

/-- A label with a value, after a blank; nothing without a value. -/
def labelled (label : String) : Option String → String
  | some value => " " ++ label ++ "=" ++ value
  | none => ""

/-- The paragraph of a route. -/
def Route.paragraph (r : Route) (i : Nat) : String :=
  routeNumber i ++ " " ++ r.uri ++ " [" ++ r.kind ++ "]" ++ labelled "name" r.name ++
    labelled "from" r.provenance ++ "\n" ++
    String.join (r.methods.map fun b => bindingLine b.1 b.2) ++
    (if r.middlewares.isEmpty then ""
      else "    middlewares: " ++ ", ".intercalate r.middlewares ++ "\n") ++
    String.join (r.variants.map variantLine)

/-- The inspection of a router. -/
def Router.inspection (r : Router) : String :=
  String.join (r.routes.toList.zipIdx.map fun (route, i) => route.paragraph i) ++
    toString r.size ++ " routes, " ++ toString r.entries.length ++ " table rows\n"

/-! ## 2. Resolutions -/

/-- The handler of a route for a method, as it is shown after the values. -/
def handlerNote (r : Resolved) (m : Method) : String :=
  " " ++ m.token ++ "=" ++ (r.handler? m).getD "<unbound>"

/-- What is shown of a resolved path. -/
def Resolved.line (r : Resolved) (path : String) (method : Option Method) : String :=
  path ++ " -> " ++ routeNumber r.id ++ " " ++ r.route.uri ++
    (match r.route.name with
      | some name => " (" ++ name ++ ")"
      | none => "") ++
    String.join (r.params.map fun p => " " ++ p.1 ++ "=" ++ p.2) ++
    (match method with
      | some m => handlerNote r m
      | none => "") ++ "\n"

/-- The line for a path. -/
def Router.resolutionLine (r : Router) (method : Option Method) (path : String) : String :=
  match r.find? path method with
  | some res => res.line path method
  | none => path ++ " -> no route\n"

/-- Whether a path leads to no route. -/
def Router.misses (r : Router) (method : Option Method) (path : String) : Bool :=
  (r.find? path method).isNone

end Wayfinder
