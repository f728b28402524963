/-
  Wayfinder/Snapshot/Codec.lean
  =============================
  **Snapshots as JSON.**

  Every part of a snapshot has a writer and a reader beside it, and reading what was
  written gives the part back.
-/
import Wayfinder.Json.Value
import Wayfinder.Json.Decode
import Wayfinder.Json.Reader
import Wayfinder.Json.Writer
import Wayfinder.Snapshot

namespace Wayfinder

open Wayfinder.Pattern

/-! ## 1. Parts of routes -/

/-- The wildcards of a pattern as JSON. -/
def Pattern.Wildcards.toJson (ws : Wildcards) : Json :=
  .record [("positional_form", .ofText ws.positionalForm), ("names", .ofTexts ws.names),
    ("optional", .array (ws.optional.map .bool))]

/-- Read the wildcards of a pattern. -/
def Pattern.Wildcards.ofJson? (j : Json) : Option Wildcards := do
  match ← j.fields [.needed "positional_form", .needed "names", .needed "optional"] with
  | [form, names, optional] =>
    return ⟨← Json.present Json.asText form, ← Json.present (Json.asList Json.asText) names,
      ← Json.present (Json.asList Json.asBool) optional⟩
  | _ => none

/-- A position is a machine word. -/
def asPosition (j : Json) : Option Nat := j.asNatural wordBound

/-- A variant as JSON. -/
def Pattern.AnchoredVariant.toJson (v : AnchoredVariant) : Json :=
  .record [("pattern", .ofText v.pattern), ("indices", .ofNaturals v.indices),
    ("regex", .ofText v.regex)]

/-- Read a variant. -/
def Pattern.AnchoredVariant.ofJson? (j : Json) : Option AnchoredVariant := do
  match ← j.fields [.needed "pattern", .needed "indices", .needed "regex"] with
  | [pattern, indices, regex] =>
    return ⟨← Json.present Json.asText pattern, ← Json.present (Json.asList asPosition) indices,
      ← Json.present Json.asText regex⟩
  | _ => none

/-- A binding as JSON. -/
def Binding.toJson (b : Binding) : Json :=
  .record [("handler", .ofText b.handler), ("derived", .bool b.derived)]

/-- Read a binding. -/
def Binding.ofJson? (j : Json) : Option Binding := do
  match ← j.fields [.needed "handler", .defaulted "derived"] with
  | [handler, derived] =>
    return ⟨← Json.present Json.asText handler, ← Json.orElse false Json.asBool derived⟩
  | _ => none

/-- Bindings as JSON, by token. -/
def Bindings.toJson (bs : Bindings) : Json := .record (bs.map fun b => (b.1.token, b.2.toJson))

/-- Read bindings. -/
def Bindings.ofJson? (j : Json) : Option Bindings := do
  let members ← j.asMembers Method.ofToken? Binding.ofJson?
  return members.foldl (fun bs m => Bindings.insert m.1 m.2 bs) []

/-! ## 2. Routes and rows -/

/-- A route as JSON. -/
def Route.toJson (r : Route) : Json :=
  .record [("uri", .ofText r.uri), ("name", .ofText? r.name), ("wildcards", r.wildcards.toJson),
    ("constraints", .ofTexts r.constraints),
    ("variants", .array (r.variants.map AnchoredVariant.toJson)),
    ("methods", Bindings.toJson r.methods), ("middlewares", .ofTexts r.middlewares),
    ("provenance", .ofText? r.provenance)]

/-- Read a route. -/
def Route.ofJson? (j : Json) : Option Route := do
  match ← j.fields [.needed "uri", .optional "name", .needed "wildcards", .needed "constraints",
      .needed "variants", .needed "methods", .needed "middlewares", .optional "provenance"] with
  | [uri, name, wildcards, constraints, variants, methods, middlewares, provenance] =>
    return {
      uri := ← Json.present Json.asText uri
      name := ← Json.orElse none (Json.asOption Json.asText) name
      wildcards := ← Json.present Wildcards.ofJson? wildcards
      constraints := ← Json.present (Json.asList Json.asText) constraints
      variants := ← Json.present (Json.asList AnchoredVariant.ofJson?) variants
      methods := ← Json.present Bindings.ofJson? methods
      middlewares := ← Json.present (Json.asList Json.asText) middlewares
      provenance := ← Json.orElse none (Json.asOption Json.asText) provenance }
  | _ => none

/-- A row as JSON. -/
def Entry.toJson (e : Entry) : Json :=
  .record [("regex", .ofText e.regex), ("route", .natural e.route),
    ("indices", .ofNaturals e.indices)]

/-- Read a row. -/
def Entry.ofJson? (j : Json) : Option Entry := do
  match ← j.fields [.needed "regex", .needed "route", .needed "indices"] with
  | [regex, route, indices] =>
    return ⟨← Json.present Json.asText regex, ← Json.present asPosition route,
      ← Json.present (Json.asList asPosition) indices⟩
  | _ => none

/-! ## 3. Snapshots -/

namespace Snapshot

/-- A version is a number of thirty-two bits. -/
def asVersion (j : Json) : Option Nat := j.asNatural UInt32.size

/-- A snapshot as JSON.  A hash that is not there is left out. -/
def toJson (s : Snapshot) : Json :=
  .record ([("version", .natural s.version)] ++
    (s.sourceHash.map fun h => ("source_hash", Json.ofText h)).toList ++
    [("routes", .array (s.routes.map Route.toJson)),
      ("entries", .array (s.entries.map Entry.toJson))])

/-- Read a snapshot. -/
def ofJson? (j : Json) : Option Snapshot := do
  match ← j.fields [.needed "version", .defaulted "source_hash", .needed "routes",
      .needed "entries"] with
  | [version, sourceHash, routes, entries] =>
    return {
      version := ← Json.present asVersion version
      sourceHash := ← Json.orElse none (Json.asOption Json.asText) sourceHash
      routes := ← Json.present (Json.asList Route.ofJson?) routes
      entries := ← Json.present (Json.asList Entry.ofJson?) entries }
  | _ => none

/-- The version of a snapshot, whatever else it holds. -/
def versionOf? (j : Json) : Option Nat := do
  match ← j.fields [.needed "version"] with
  | [version] => Json.present asVersion version
  | _ => none

/-- The text of a snapshot. -/
def encode (s : Snapshot) : String := s.toJson.render

/-- Read a snapshot from a text, without looking at its version. -/
def decode? (text : String) : Option Snapshot := do ofJson? (← Json.parse text)

end Snapshot

end Wayfinder
