/-
  Wayfinder/Failure.lean
  ======================
  **Why a command fails.**

  A failure has one cause, and the contexts in which it was met.  Every layer that a
  failure passes may add a context in front of those that are there.
-/
import Wayfinder.RouteError
import Wayfinder.Files
import Wayfinder.Cache.Fault
import Wayfinder.Manifest.Format

namespace Wayfinder

/-- The cause of a failure. -/
inductive Cause where
  /-- Something that words alone tell. -/
  | note (text : String)
  /-- A declaration that cannot be accepted. -/
  | route (error : RouteError)
  /-- A file that cannot be used. -/
  | file (fault : FileFault)
  /-- A stored snapshot that cannot be used. -/
  | cache (fault : Cache.Fault)
  /-- A text that is no manifest in a format. -/
  | malformed (format : Manifest.Format)
deriving DecidableEq, Repr

/-- The cause in words. -/
def Cause.message : Cause → String
  | .note text => text
  | .route error => error.message
  | .file fault => fault.message
  | .cache fault => fault.message
  | .malformed format => "the text does not follow the " ++ format.label ++ " layout of manifests"

/-- A failure: its cause, and the contexts in which it was met, the widest first. -/
structure Failure where
  contexts : List String
  cause : Cause
deriving DecidableEq, Repr

namespace Failure

/-- A failure that words alone tell. -/
def note (text : String) : Failure := ⟨[], .note text⟩

/-- A failure in a wider context. -/
def within (context : String) (f : Failure) : Failure :=
  { f with contexts := context :: f.contexts }

/-- The failure in words. -/
def message (f : Failure) : String := ": ".intercalate (f.contexts ++ [f.cause.message])

end Failure

end Wayfinder
