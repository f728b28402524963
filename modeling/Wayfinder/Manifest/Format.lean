/-
  Wayfinder/Manifest/Format.lean
  ==============================
  **The formats of manifests.**

  The format of a manifest follows from the extension of its file name.
-/
import Wayfinder.Text.Quoted
import Wayfinder.Text.Split

namespace Wayfinder.Manifest

/-- A format of manifests. -/
inductive Format where
  | yaml | json | toml
deriving DecidableEq, Repr

/-- The last name of a path; steps to the same directory do not count, and a step to the
    parent is no name. -/
def fileName? (path : String) : Option String :=
  match ((Text.cutAt '/' path).filter fun s => s ≠ "" ∧ s ≠ ".").getLast? with
  | some name => if name = ".." then none else some name
  | none => none

/-- The extension of a file name: what follows its last dot, unless it starts with its
    only one. -/
def extensionOf? (name : String) : Option String :=
  let back := name.toList.reverse
  match back.dropWhile (· ≠ '.') with
  | '.' :: _ :: _ => some (String.ofList (back.takeWhile (· ≠ '.')).reverse)
  | _ => none

/-- The extension of a path. -/
def extension? (path : String) : Option String := (fileName? path).bind extensionOf?

/-- The message about an extension that no format has. -/
def unsupportedMessage (path : String) : String :=
  let shown := match extension? path with
    | some e => "Some(" ++ Text.quoted e ++ ")"
    | none => "None"
  "unsupported route manifest extension " ++ shown ++ " for `" ++ path ++
    "` (expected yaml, yml, json or toml)"

/-- The format of the manifest at a path. -/
def Format.ofPath? (path : String) : Option Format :=
  match extension? path with
  | some "yaml" => some .yaml
  | some "yml" => some .yaml
  | some "json" => some .json
  | some "toml" => some .toml
  | _ => none

/-- The name of a format in messages. -/
def Format.label : Format → String
  | .yaml => "YAML"
  | .json => "JSON"
  | .toml => "TOML"

end Wayfinder.Manifest
