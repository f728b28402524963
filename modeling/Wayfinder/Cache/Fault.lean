/-
  Wayfinder/Cache/Fault.lean
  ==========================
  **Why a stored snapshot is not used.**
-/
import Wayfinder.Files
import Wayfinder.Snapshot

namespace Wayfinder.Cache

/-- What is wrong with the file of a snapshot. -/
inductive Fault where
  /-- The file cannot be read or written. -/
  | file (path : String) (fault : FileFault)
  /-- The file holds no snapshot. -/
  | format
  /-- The file holds a snapshot that is refused. -/
  | refused (fault : Snapshot.Fault)
deriving DecidableEq, Repr

/-- The fault in words. -/
def Fault.message : Fault → String
  | .file path fault => "route table cache `" ++ path ++ "`: " ++ fault.message
  | .format => "route table cache is not valid JSON"
  | .refused fault => fault.message

end Wayfinder.Cache
