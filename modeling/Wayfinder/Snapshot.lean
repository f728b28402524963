/-
  Wayfinder/Snapshot.lean
  =======================
  **The persisted form of a router.**

  A snapshot holds the routes and rows of a router, so that a program can start without
  declaring them again.  It is not trusted: a snapshot of another version is refused,
  and so is one whose rows do not fit its routes.
-/
import Wayfinder.RouteError
import Wayfinder.Route
import Wayfinder.Router
import Wayfinder.Digest.Sha256

namespace Wayfinder

open Wayfinder.Pattern

/-- The version of the layout that is written and accepted. -/
def formatVersion : Nat := 2

/-- The persisted form of a router. -/
structure Snapshot where
  version : Nat
  /-- The hash of the manifest that the routes come from. -/
  sourceHash : Option String
  routes : List Route
  entries : List Entry
deriving DecidableEq, Repr

/-- The hash of the content of a manifest: the first quarter of its digest. -/
def sourceHash (content : List UInt8) : String := Digest.hex ((Digest.sha256 content).take 8)

namespace Snapshot

/-! ## 1. Faults -/

/-- Why a snapshot is refused. -/
inductive Fault where
  /-- It has another version. -/
  | version (found : Nat)
  /-- A row names a route that is not there. -/
  | unknownRoute (row route : Nat)
  /-- A row names a wildcard that its route does not have. -/
  | unknownWildcard (row index : Nat) (uri : String)
  /-- A row is no variant of its route. -/
  | noVariant (row : Nat) (regex uri : String)
  /-- The expression of a row does not compile. -/
  | faultyRow (fault : RowFault)
deriving DecidableEq, Repr

/-- What a message says of a row that does not compile, given the reason in words. -/
def faultyRowMessage (regex uri reason : String) : String :=
  "`" ++ regex ++ "` for `" ++ uri ++ "` does not compile: " ++ reason

/-- What is corrupt about a snapshot. -/
def Fault.detail : Fault → String
  | .version found =>
    "route table cache format version " ++ toString found ++
      " does not match compiler version " ++ toString formatVersion
  | .unknownRoute row route =>
    "row " ++ toString row ++ " references unknown route #" ++ toString route
  | .unknownWildcard row index uri =>
    "row " ++ toString row ++ " references wildcard " ++ toString index ++ " of `" ++ uri ++ "`"
  | .noVariant row regex uri =>
    "row " ++ toString row ++ " `" ++ regex ++ "` is not a variant of `" ++ uri ++ "`"
  | .faultyRow f => faultyRowMessage f.regex f.uri f.reason.message

/-- What stands before a detail. -/
def corruptMessage (detail : String) : String := "route table cache is corrupt: " ++ detail

/-- The fault in words. -/
def Fault.message (f : Fault) : String :=
  match f with
  | .version _ => f.detail
  | _ => corruptMessage f.detail

/-! ## 2. From and to routers -/

/-- The snapshot of a router. -/
def ofRouter (r : Router) : Snapshot :=
  { version := formatVersion
    sourceHash := none
    routes := r.routes.toList
    entries := r.entries }

/-- What is wrong with a row, if anything. -/
def rowFault? (routes : Array Route) (row : Nat) (e : Entry) : Option Fault :=
  match routes[e.route]? with
  | none => some (.unknownRoute row e.route)
  | some route =>
    match e.indices.find? fun i => route.wildcards.size ≤ i with
    | some i => some (.unknownWildcard row i route.uri)
    | none =>
      if route.variants.any fun v => v.regex == e.regex && v.indices == e.indices then none
      else some (.noVariant row e.regex route.uri)

/-- The fault of the first row that has one, rows counted from `row`. -/
def firstFault? (routes : Array Route) (row : Nat) : List Entry → Option Fault
  | [] => none
  | e :: es =>
    match rowFault? routes row e with
    | some f => some f
    | none => firstFault? routes (row + 1) es

/-- The router of a snapshot. -/
def toRouter (s : Snapshot) : Except Fault Router :=
  if s.version ≠ formatVersion then .error (.version s.version)
  else
    let routes := s.routes.toArray
    match firstFault? routes 0 s.entries with
    | some f => .error f
    | none =>
      match Router.assemble routes s.entries with
      | .ok r => .ok r
      | .error f => .error (.faultyRow f)

end Snapshot

end Wayfinder
