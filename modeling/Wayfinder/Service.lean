/-
  Wayfinder/Service.lean
  ======================
  **Answering paths while the manifest may change.**

  A service holds the router of the last manifest that could be compiled.  It answers the
  lines of its input, each with a path; reading the manifest again replaces the router
  only if it succeeds.
-/
import Wayfinder.Failure
import Wayfinder.Files
import Wayfinder.Manifest.Loading
import Wayfinder.Report
import Wayfinder.Router
import Wayfinder.Text.Blank

namespace Wayfinder

/-- A running service. -/
structure Service where
  router : Router

namespace Service

/-! ## 1. Reloading -/

/-- Start a service. -/
def start (fs : Files) (path : String) : Except Failure Service := do
  return ⟨← Router.load fs path⟩

/-- Read the manifest again.  The answer is the number of routes; after a failure the
    service goes on as it was. -/
def reload (s : Service) (fs : Files) (path : String) : Service × Except Failure Nat :=
  match Router.load fs path with
  | .ok router => (⟨router⟩, .ok router.size)
  | .error f => (s, .error f)

/-! ## 2. Lines -/

/-- The lines of an input.  A line break ends a line, and the last line may lack it. -/
def lines : Bytes → List Bytes
  | [] => []
  | b :: bs =>
    if b = 10 then [] :: lines bs
    else
      match lines bs with
      | [] => [[b]]
      | l :: ls => (b :: l) :: ls

/-- The answer to a line: nothing to a blank one. -/
def answer (s : Service) (line : String) : String :=
  let path := Text.trim line
  if path.isEmpty then "" else s.router.resolutionLine none path

/-- A line that is no text ends the service. -/
def unreadableLine : Failure := ⟨["failed to read path from stdin"], .file .invalidData⟩

/-- Answer lines, up to the first that is no text. -/
def answerAll (s : Service) : List Bytes → String × Option Failure
  | [] => ("", none)
  | l :: ls =>
    match textOfBytes? l with
    | none => ("", some unreadableLine)
    | some line =>
      let (rest, failure) := s.answerAll ls
      (s.answer line ++ rest, failure)

/-- Answer the lines of an input. -/
def serve (s : Service) (input : Bytes) : String × Option Failure := s.answerAll (lines input)

end Service

end Wayfinder
