/-
  Wayfinder/Manifest/Loading.lean
  ===============================
  **From the file of a manifest to a router.**

  A manifest is read, each of its declarations is registered in order, and the registry
  is sealed.  A failure names the file, or the declaration that is to blame.
-/
import Wayfinder.Failure
import Wayfinder.Files
import Wayfinder.Manifest
import Wayfinder.Manifest.Document
import Wayfinder.Manifest.Format
import Wayfinder.Registry
import Wayfinder.Router

namespace Wayfinder

/-! ## 1. Reading -/

namespace Manifest

/-- Read the text of a manifest. -/
def parse (text : String) (format : Format) : Except Failure Manifest :=
  match parse? text format with
  | some m => .ok m
  | none => .error ⟨["invalid " ++ format.label ++ " route manifest"], .malformed format⟩

/-- Read the file of a manifest. -/
def load (fs : Files) (path : String) : Except Failure Manifest :=
  match Format.ofPath? path with
  | none => .error (.note (unsupportedMessage path))
  | some format =>
    match fs.readText path with
    | .error fault => .error ⟨["failed to read route manifest `" ++ path ++ "`"], .file fault⟩
    | .ok text =>
      (parse text format).mapError (·.within ("failed to parse route manifest `" ++ path ++ "`"))

end Manifest

/-! ## 2. Compiling -/

/-- Where the declaration with a number comes from. -/
def provenanceTag (origin : String) (i : Nat) : String := origin ++ "#" ++ toString i

/-- Register a declaration. -/
def Declaration.addTo (d : Declaration) (reg : Registry) (provenance : String) :
    Except RouteError Registry := do
  let (reg, _) ← reg.add (← d.draft provenance)
  return reg

/-- The context of a declaration that cannot be registered. -/
def Declaration.context (d : Declaration) (origin : String) (i : Nat) : String :=
  "route #" ++ toString i ++ " `" ++ d.uri ++ "` in " ++ origin

namespace Manifest

/-- Register declarations, numbered from `i`. -/
def addAll (origin : String) (reg : Registry) (i : Nat) :
    List Declaration → Except Failure Registry
  | [] => .ok reg
  | d :: ds =>
    match d.addTo reg (provenanceTag origin i) with
    | .ok reg => addAll origin reg (i + 1) ds
    | .error e => .error ⟨[d.context origin i], .route e⟩

/-- The router of a manifest. -/
def toRouter (m : Manifest) (origin : String) : Except Failure Router := do
  let reg ← addAll origin .empty 0 m.routes
  match reg.toRouter with
  | .ok router => .ok router
  | .error e => .error ⟨["failed to seal routes from " ++ origin], .route e⟩

end Manifest

/-- The router of the manifest in a file, with the path as the origin of its routes. -/
def Router.load (fs : Files) (path : String) : Except Failure Router := do
  (← Manifest.load fs path).toRouter path

end Wayfinder
