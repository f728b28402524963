/-
  Wayfinder/Draft.lean
  ====================
  **Declaring a route step by step.**

  A draft starts from a pattern, and each step adds one thing to it.  A step is checked
  at once, so a finished route never comes from a faulty declaration: finishing a draft
  cannot fail.
-/
import Wayfinder.RouteError
import Wayfinder.Pattern.Grammar
import Wayfinder.Pattern.Wildcards
import Wayfinder.Pattern.Expansion
import Wayfinder.Pattern.Constraint
import Wayfinder.Pattern.Anchored
import Wayfinder.Route

namespace Wayfinder

open Wayfinder.Pattern

/-! ## 1. Drafts -/

/-- A declaration in progress. -/
structure Draft where
  uri : String
  name : Option String
  wildcards : Wildcards
  constraints : Constraints
  methods : Bindings
  middlewares : List String
  provenance : Option String
deriving DecidableEq, Repr

/-- Whether a text is a route name: ASCII letters, digits, `_`, `.` and `-`. -/
def isRouteName (s : String) : Bool :=
  !s.isEmpty && s.toList.all fun c => c.isAlphanum || c == '_' || c == '.' || c == '-'

/-- One step of a declaration. -/
inductive Draft.Step where
  | name (n : String)
  | constraint (wildcard fragment : String)
  | method (m : Method) (handler : String)
  /-- A method by its token, which may name none. -/
  | methodToken (token handler : String)
  | middleware (id : String)
  | provenance (tag : String)
deriving DecidableEq, Repr

namespace Draft

variable [Regex.SizeLimit]

/-- Start from a pattern. -/
def start (uri : String) : Except RouteError Draft := do
  validate uri
  let ws ← extract uri
  let count := ws.optionalPositions.length
  if count > maxOptionals then
    .error (.tooManyOptionals uri count maxOptionals)
  else
    .ok ⟨uri, none, ws, .unbound ws, [], [], none⟩

/-! ## 2. Steps -/

/-- Give the route a name. -/
def setName (d : Draft) (n : String) : Except RouteError Draft :=
  if isRouteName n then .ok { d with name := some n } else .error (.invalidName d.uri n)

/-- Constrain a wildcard. -/
def constrain (d : Draft) (wildcard fragment : String) : Except RouteError Draft := do
  let cs ← d.constraints.bind d.uri d.wildcards wildcard fragment
  return { d with constraints := cs }

/-- Bind a handler to a method that has none. -/
def bindMethod (d : Draft) (m : Method) (handler : String) : Except RouteError Draft :=
  if Bindings.has d.methods m then .error (.duplicateMethod d.uri m.token)
  else .ok { d with methods := Bindings.insert m ⟨handler, false⟩ d.methods }

/-- Bind a handler to the method with a token. -/
def bindToken (d : Draft) (token handler : String) : Except RouteError Draft :=
  match Method.ofToken? token with
  | some m => d.bindMethod m handler
  | none => .error (.unsupportedMethod d.uri token)

/-- Take a step. -/
def take (d : Draft) : Step → Except RouteError Draft
  | .name n => d.setName n
  | .constraint wildcard fragment => d.constrain wildcard fragment
  | .method m handler => d.bindMethod m handler
  | .methodToken token handler => d.bindToken token handler
  | .middleware id => .ok { d with middlewares := d.middlewares ++ [id] }
  | .provenance tag => .ok { d with provenance := some tag }

/-- Take steps in order, up to the first that fails. -/
def takeAll (d : Draft) (steps : List Step) : Except RouteError Draft := steps.foldlM take d

/-- The draft that some steps make of a pattern. -/
def build (uri : String) (steps : List Step) : Except RouteError Draft := do
  (← start uri).takeAll steps

/-! ## 3. Finishing -/

/-- The finished route. -/
def finish (d : Draft) : Route :=
  let fragments := d.constraints.fragments
  { uri := d.uri
    name := d.name
    wildcards := d.wildcards
    constraints := fragments
    variants :=
      (expand d.wildcards.positionalForm d.wildcards.optional).map fun v => v.anchor fragments
    methods := Bindings.withHead d.methods
    middlewares := d.middlewares
    provenance := d.provenance }

end Draft

/-- The route of a pattern alone. -/
def Route.ofPattern (uri : String) : Except RouteError Route := do
  return (← Draft.start uri).finish

end Wayfinder
