/-
  Wayfinder/Router.lean
  =====================
  **Resolving request paths.**

  A router is a table of rows.  A row is one variant of one route: its expression, the
  positions of its tokens, and how it is compared with a path.  Rows are tried in
  order, and the first that accepts the path decides.  A row for a variant without
  tokens compares the path with the pattern itself.
-/
import Std.Data.HashMap.Basic
import Wayfinder.RouteError
import Wayfinder.Regex.Compile
import Wayfinder.Route

namespace Wayfinder

open Wayfinder.Pattern

/-! ## 1. Rows -/

/-- A row as it is declared: an expression, the number of a route, and the positions of
    the tokens. -/
structure Entry where
  regex : String
  route : Nat
  indices : List Nat
deriving DecidableEq, Repr

/-- How a row is compared with a path. -/
inductive Matcher where
  /-- The path has to be this text. -/
  | literal (text : String)
  /-- The expression has to match the path. -/
  | regex (r : Regex)
deriving DecidableEq, Repr

/-- A row that is ready for use. -/
structure Row where
  entry : Entry
  /-- The group of each token. -/
  slots : List Nat
  matcher : Matcher
deriving DecidableEq, Repr

/-- What an accepted path holds at the groups of a row. -/
def Matcher.groups? (path : String) : Matcher → Option (Nat → Option String)
  | .literal text => if text = path then some fun _ => none else none
  | .regex r =>
    (r.captures? path.toList).map fun caps i => (caps.group? i).map String.ofList

/-! ## 2. Routers -/

/-- Routes that are closed for registration, with their table of rows. -/
structure Router where
  routes : Array Route
  /-- The numbers of the named routes. -/
  names : Std.HashMap String Nat
  rows : List Row

/-- A row whose expression does not compile. -/
structure RowFault where
  uri : String
  /-- The pattern of the row. -/
  variant : String
  regex : String
  reason : Regex.Fault
deriving DecidableEq, Repr

namespace Router

variable [Regex.SizeLimit]

/-- How a row of a route is compared.  `variant` is the first variant of the route with
    the row's expression. -/
def matcherFor (route : Route) (variant : Option AnchoredVariant) (e : Entry) :
    Except RowFault Matcher :=
  let byRegex : Except RowFault Matcher :=
    match Regex.compile e.regex with
    | .ok r => .ok (.regex r)
    | .error reason => .error ⟨route.uri, (variant.map (·.pattern)).getD "", e.regex, reason⟩
  match variant with
  | some v => if v.indices.isEmpty && e.indices.isEmpty then .ok (.literal v.pattern) else byRegex
  | none => byRegex

/-- Make a row of a route ready.  `inner` are the numbers of groups in the fragments of
    the route. -/
def readyRow (route : Route) (inner : List Nat) (e : Entry) : Except RowFault Row := do
  let variant := route.variants.find? fun v => v.regex == e.regex
  return ⟨e, slotsFrom 1 inner e.indices, ← matcherFor route variant e⟩

/-- The rows whose route exists, each with its route.  Callers make sure that no route
    is missing. -/
def withRoutes (routes : Array Route) (es : List Entry) : List (Entry × Route) :=
  es.filterMap fun e => routes[e.route]?.map fun route => (e, route)

/-- Make rows ready, up to the first that does not compile.  `inner` are the numbers of
    groups in the fragments of each route. -/
def readyRows (routes : Array Route) (inner : Array (List Nat)) (es : List Entry) :
    Except RowFault (List Row) :=
  (withRoutes routes es).mapM fun (e, route) => readyRow route (inner[e.route]?.getD []) e

/-- The numbers of the named routes, from `n` on; of equal names the last counts. -/
def nameTable (names : Std.HashMap String Nat) (n : Nat) : List Route → Std.HashMap String Nat
  | [] => names
  | r :: rs =>
    match r.name with
    | some name => nameTable (names.insert name n) (n + 1) rs
    | none => nameTable names (n + 1) rs

/-- The router of some routes and rows. -/
def assemble (routes : Array Route) (entries : List Entry) : Except RowFault Router := do
  let inner := routes.map fun r => r.constraints.map innerGroups
  let rows ← readyRows routes inner entries
  return ⟨routes, nameTable ∅ 0 routes.toList, rows⟩

/-- The number of routes. -/
def size (r : Router) : Nat := r.routes.size

/-- The rows as they were declared. -/
def entries (r : Router) : List Entry := r.rows.map (·.entry)

/-- The route with a name, and its number. -/
def byName? (r : Router) (name : String) : Option (Nat × Route) :=
  r.names[name]?.bind fun i => r.routes[i]?.map fun route => (i, route)

end Router

/-! ## 3. Resolution -/

/-- The route that a path leads to, with the values of its wildcards. -/
structure Resolved where
  id : Nat
  route : Route
  params : List (String × String)
deriving DecidableEq, Repr

namespace Resolved

/-- The value of a wildcard. -/
def get? (r : Resolved) (name : String) : Option String :=
  (r.params.find? fun p => p.1 == name).map (·.2)

/-- The values by name; of equal names the last counts. -/
def paramsMap (r : Resolved) : Std.HashMap String String := Std.HashMap.ofList r.params

/-- The handler of the route for a method. -/
def handler? (r : Resolved) (m : Method) : Option String := r.route.handler? m

end Resolved

namespace Router

/-- The values of the tokens of a row, where both the token's wildcard and its group
    are there. -/
def paramsOf (names : List String) (groups : Nat → Option String) (indices slots : List Nat) :
    List (String × String) :=
  (indices.zip slots).filterMap fun (i, slot) =>
    match names[i]?, groups slot with
    | some name, some value => some (name, value)
    | _, _ => none

/-- Whether a route is looked at for a request; without a method every route is. -/
def considered (method : Option Method) (route : Route) : Bool :=
  match method with
  | some m => route.answers m
  | none => true

/-- What a row makes of a path. -/
def tryRow (routes : Array Route) (path : String) (method : Option Method) (row : Row) :
    Option Resolved :=
  match routes[row.entry.route]? with
  | none => none
  | some route =>
    if considered method route then
      (row.matcher.groups? path).map fun groups =>
        ⟨row.entry.route, route,
          paramsOf route.wildcards.names groups row.entry.indices row.slots⟩
    else none

/-- The first row that accepts a path decides. -/
def find? (r : Router) (path : String) (method : Option Method) : Option Resolved :=
  r.rows.findSome? (tryRow r.routes path method)

/-- Resolve a path, for a method or for any. -/
def resolve (r : Router) (path : String) (method : Option Method) : Except RouteError Resolved :=
  match r.find? path method with
  | some res => .ok res
  | none => .error (.notFound path)

end Router

end Wayfinder
