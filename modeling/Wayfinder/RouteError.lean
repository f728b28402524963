/-
  Wayfinder/RouteError.lean
  =========================
  **What can be wrong with a route, and how it is told.**

  Every error but the last is a defect of a declaration: it arises while a route is
  declared, registered or sealed, it names the declared pattern, and it says which
  rule was broken.  The last, `notFound`, is the answer to a request path that no
  registered route matches.
-/
import Wayfinder.Regex.Fault

namespace Wayfinder

/-! ## 1. The rules of raw pattern text -/

/-- A rule that the raw text of a pattern can break.  Several can be broken at once. -/
inductive PathRule where
  /-- A pattern starts with a slash. -/
  | leadingSlash
  /-- No two slashes stand side by side. -/
  | singleSlashes
  /-- No backslash. -/
  | noBackslash
  /-- No two equal braces stand side by side. -/
  | singleBraces
  /-- No blank. -/
  | noBlank
deriving DecidableEq, Repr

/-- What a message says about a broken rule. -/
def PathRule.complaint : PathRule → String
  | .leadingSlash => "must start with a forward slash"
  | .singleSlashes => "`//` extra-slashes"
  | .noBackslash => "`\\` backslash"
  | .singleBraces => "`\x7b\x7b` or `\x7d\x7d` double-braces"
  | .noBlank => "whitespace"

/-! ## 2. The errors -/

/-- An error of declaring, registering, sealing or resolving.  `uri` is always the
    pattern as it was declared. -/
inductive RouteError where
  /-- The raw pattern breaks the listed rules. -/
  | invalidPath (uri : String) (broken : List PathRule)
  /-- The braces do not pair up to well-formed wildcard tokens. -/
  | unbalancedBraces (uri : String) (opened closed tokens : Nat)
  /-- A token such as `{0}`, whose form is reserved for positions. -/
  | reservedWildcard (uri : String) (token : String)
  /-- One name stands at two positions. -/
  | duplicateWildcard (uri : String) (name : String)
  /-- More optional wildcards than can be expanded. -/
  | tooManyOptionals (uri : String) (count limit : Nat)
  /-- A constraint on a name that the pattern does not declare. -/
  | unknownWildcard (uri : String) (name : String)
  /-- A second constraint on one wildcard. -/
  | duplicateConstraint (uri : String) (name : String)
  /-- A fragment, or the expression assembled for a variant, that does not compile.
      `name` is the wildcard or the variant. -/
  | invalidRegex (uri : String) (name : String) (regex : String) (reason : Regex.Fault)
  /-- A route name with a character outside letters, digits, `_`, `.` and `-`. -/
  | invalidName (uri : String) (name : String)
  /-- A method token outside the supported set. -/
  | unsupportedMethod (uri : String) (method : String)
  /-- A method bound twice on one route. -/
  | duplicateMethod (uri : String) (method : String)
  /-- A route name that an earlier route holds. -/
  | duplicateName (uri : String) (name : String) (holder : String)
  /-- A variant that an earlier route has for a common method. -/
  | duplicateVariant (uri : String) (variant : String) (holder : String)
  /-- No route matches the request path. -/
  | notFound (path : String)
deriving DecidableEq, Repr

namespace RouteError

/-- The declared pattern that the error is about; a request path has none. -/
def uri? : RouteError → Option String
  | invalidPath uri _ | unbalancedBraces uri _ _ _ | reservedWildcard uri _
  | duplicateWildcard uri _ | tooManyOptionals uri _ _ | unknownWildcard uri _
  | duplicateConstraint uri _ | invalidRegex uri _ _ _ | invalidName uri _
  | unsupportedMethod uri _ | duplicateMethod uri _ | duplicateName uri _ _
  | duplicateVariant uri _ _ => some uri
  | notFound _ => none

/-- A name between braces, as messages show wildcards. -/
def braced (name : String) : String := "\x7b" ++ name ++ "\x7d"

/-- The message for an expression that does not compile, given the reason in words. -/
def invalidRegexMessage (uri name regex reason : String) : String :=
  "Invalid regex pattern `" ++ regex ++ "` for `" ++ braced name ++ "` in route `" ++ uri ++
    "`: " ++ reason

/-- The error in words. -/
def message : RouteError → String
  | invalidPath uri broken =>
    "Route path `" ++ uri ++ "` " ++ " and ".intercalate (broken.map PathRule.complaint)
  | unbalancedBraces uri opened closed tokens =>
    "Route path `" ++ uri ++ "` contains unmatched braces (" ++ toString opened ++ " open, " ++
      toString closed ++ " close, " ++ toString tokens ++ " matches)"
  | reservedWildcard uri token =>
    "Route path `" ++ uri ++ "` uses `" ++ token ++ "`: wildcards in the form of `" ++
      braced "n" ++ "` are reserved"
  | duplicateWildcard uri name =>
    "Must declare one unique wildcard per capturing group, duplicated `" ++ braced name ++
      "` detected in route `" ++ uri ++ "`"
  | tooManyOptionals uri count limit =>
    "Route `" ++ uri ++ "` declares " ++ toString count ++ " optional wildcards, at most " ++
      toString limit ++ " are supported"
  | unknownWildcard uri name =>
    "Wildcard `" ++ braced name ++ "` doesn't exist in route `" ++ uri ++ "`"
  | duplicateConstraint uri name =>
    "Where clause for `" ++ braced name ++ "` wildcard has been already declared in route `" ++
      uri ++ "`"
  | invalidRegex uri name regex reason => invalidRegexMessage uri name regex reason.message
  | invalidName uri name =>
    "Route name `" ++ name ++ "` for `" ++ uri ++
      "` must contain only alphanumeric, underscore, hyphen or dot characters"
  | unsupportedMethod uri method =>
    "Unknown HTTP method `" ++ method ++ "` for route `" ++ uri ++ "`"
  | duplicateMethod uri method =>
    "HTTP method `" ++ method ++ "` has been already bound for route `" ++ uri ++ "`"
  | duplicateName uri name holder =>
    "Route name `" ++ name ++ "` for `" ++ uri ++ "` is already taken by route `" ++ holder ++ "`"
  | duplicateVariant uri variant holder =>
    "Route `" ++ uri ++ "` variant `" ++ variant ++ "` collides with route `" ++ holder ++
      "` for the same HTTP method"
  | notFound path => "No route found for `" ++ path ++ "`"

end RouteError

end Wayfinder
