/-
  Wayfinder/Manifest/Document.lean
  ================================
  **Manifests as documents.**

  In JSON and TOML a declaration is a record, and values have to be of the right kind.
  A record that is written as an array holds no more than its fields in JSON; in TOML
  what follows them does not count.
  In YAML a declaration is a mapping; a scalar without quotes is the text that it is
  written as, whatever else it could mean, and an empty one is an empty collection.
-/
import Wayfinder.Json.Value
import Wayfinder.Json.Decode
import Wayfinder.Json.Reader
import Wayfinder.Toml.Document
import Wayfinder.Yaml.Node
import Wayfinder.Manifest
import Wayfinder.Manifest.Format

namespace Wayfinder

/-! ## 1. From and to JSON -/

/-- Read a map from texts to texts. -/
def TextMap.ofJson? (j : Json) : Option TextMap := do
  return ofPairs (← j.asMembers some Json.asText)

/-- A map as JSON. -/
def TextMap.toJson (m : TextMap) : Json := .record (m.map fun p => (p.1, .ofText p.2))

/-- The fields of a declaration, in order. -/
def Declaration.fields : List Json.Field :=
  [.needed "uri", .defaulted "name", .defaulted "methods", .defaulted "where",
    .defaulted "middlewares"]

/-- The declaration with some values of its fields. -/
def Declaration.ofFields? : List (Option Json) → Option Declaration
  | [uri, name, methods, constraints, middlewares] => do
    return {
      uri := ← Json.present Json.asText uri
      name := ← Json.orElse none (Json.asOption Json.asText) name
      methods := ← Json.orElse [] TextMap.ofJson? methods
      constraints := ← Json.orElse [] TextMap.ofJson? constraints
      middlewares := ← Json.orElse [] (Json.asList Json.asText) middlewares }
  | _ => none

/-- Read a declaration. -/
def Declaration.ofJson? (j : Json) : Option Declaration := do ofFields? (← j.fields fields)

/-- Read a declaration, in whose array form more items may follow. -/
def Declaration.ofLongerJson? (j : Json) : Option Declaration :=
  ofJson? (j.cutTo fields.length)

/-- A declaration as JSON.  A name that is not there is left out. -/
def Declaration.toJson (d : Declaration) : Json :=
  .record ([("uri", .ofText d.uri)] ++ (d.name.map fun n => ("name", Json.ofText n)).toList ++
    [("methods", TextMap.toJson d.methods), ("where", TextMap.toJson d.constraints),
      ("middlewares", .ofTexts d.middlewares)])

namespace Manifest

/-- Read a manifest with a reader of its declarations. -/
def ofJson? (declaration : Json → Option Declaration) (j : Json) : Option Manifest := do
  match ← j.fields [.defaulted "routes"] with
  | [routes] => return ⟨← Json.orElse [] (Json.asList declaration) routes⟩
  | _ => none

/-- A manifest as JSON. -/
def toJson (m : Manifest) : Json :=
  .record [("routes", .array (m.routes.map Declaration.toJson))]

end Manifest

/-! ## 2. From YAML -/

namespace Yaml

variable {α : Type}

/-- The node itself, or what it is an alias for. -/
def Document.follow (d : Document) : Node → Option Node
  | .alias id => d.target? id
  | n => some n

/-- Whether a node is a scalar with nothing in it. -/
def Node.isBlank : Node → Bool
  | .scalar _ _ plain text => plain && text.isEmpty
  | _ => false

/-- A text. -/
def Document.asText (d : Document) (n : Node) : Option String := do
  match ← d.follow n with
  | .scalar _ _ _ text => some text
  | _ => none

/-- The tag of the null value. -/
def nullTag : String := "tag:yaml.org,2002:null"

/-- Whether a scalar without quotes spells the null value. -/
def spellsNull (text : String) : Bool :=
  text == "null" || text == "Null" || text == "NULL" || text == "~"

/-- A text that may be missing.  The null value and nothing at all are no text, unless a
    tag tells otherwise. -/
def Document.asOptionalText (d : Document) (n : Node) : Option (Option String) := do
  match ← d.follow n with
  | .scalar _ _ false text => some (some text)
  | .scalar _ none true text => some (if text.isEmpty || spellsNull text then none else some text)
  | .scalar _ (some tag) true text =>
    if tag = nullTag then if spellsNull text then some none else none else some (some text)
  | _ => none

/-- A list. -/
def Document.asList (d : Document) (f : Node → Option α) (n : Node) : Option (List α) := do
  let n ← d.follow n
  match n with
  | .sequence _ items => items.mapM f
  | _ => if n.isBlank then some [] else none

/-- The members of a mapping, their keys as texts. -/
def Document.members (d : Document) (n : Node) : Option (List (String × Node)) := do
  let n ← d.follow n
  match n with
  | .mapping _ ms => ms.mapM fun m => do return (← d.asText m.1, m.2)
  | _ => if n.isBlank then some [] else none

/-- A map from texts to texts. -/
def Document.asTextMap (d : Document) (n : Node) : Option TextMap := do
  let pairs ← (← d.members n).mapM fun m => do return (m.1, ← d.asText m.2)
  return TextMap.ofPairs pairs

/-- A field of a record, which may not repeat; none when it is left out. -/
def field? (ms : List (String × Node)) (name : String) (f : Node → Option α) :
    Option (Option α) :=
  match ms.filter fun m => m.1 == name with
  | [] => some none
  | [m] => (f m.2).map some
  | _ => none

/-- Read a declaration. -/
def Document.asDeclaration (d : Document) (n : Node) : Option Declaration := do
  let ms ← d.members n
  let uri ← field? ms "uri" d.asText
  let name ← field? ms "name" d.asOptionalText
  let methods ← field? ms "methods" d.asTextMap
  let constraints ← field? ms "where" d.asTextMap
  let middlewares ← field? ms "middlewares" (d.asList d.asText)
  return {
    uri := ← uri
    name := name.join
    methods := methods.getD []
    constraints := constraints.getD []
    middlewares := middlewares.getD [] }

/-- Read a manifest. -/
def Document.asManifest (d : Document) : Option Manifest :=
  match d.root with
  | none => some ⟨[]⟩
  | some n => do
    let ms ← d.members n
    let routes ← field? ms "routes" (d.asList d.asDeclaration)
    return ⟨routes.getD []⟩

end Yaml

/-! ## 3. From texts -/

/-- The manifest that a text is in a format. -/
def Manifest.parse? (text : String) : Manifest.Format → Option Manifest
  | .yaml => do (← Yaml.parse? text).asManifest
  | .json => do ofJson? Declaration.ofJson? (← Json.parse text)
  | .toml => do ofJson? Declaration.ofLongerJson? (← Toml.parse? text)

end Wayfinder
