/-
  Wayfinder/Yaml/Token.lean
  =========================
  **The tokens of YAML.**

  Besides what is written, tokens mark where a block starts and ends, which follows
  from indentation, and where a mapping key starts, which may be seen only later.
-/

namespace Wayfinder.Yaml

/-- A tag as it is written: a handle, which is short for the start of a tag, and the
    rest. -/
structure TagText where
  handle : String
  suffix : String
deriving DecidableEq, Repr

/-- A token. -/
inductive Token where
  | versionDirective (major minor : Nat)
  | tagDirective (handle lead : String)
  | documentStart
  | documentEnd
  | blockSequenceStart
  | blockMappingStart
  | blockEnd
  | flowSequenceStart
  | flowSequenceEnd
  | flowMappingStart
  | flowMappingEnd
  | blockEntry
  | flowEntry
  | key
  | value
  | alias (name : String)
  | anchor (name : String)
  | tag (t : TagText)
  | scalar (text : String) (plain : Bool)
deriving DecidableEq, Repr

end Wayfinder.Yaml
