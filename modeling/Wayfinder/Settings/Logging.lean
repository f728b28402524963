/-
  Wayfinder/Settings/Logging.lean
  ===============================
  **Settings of the log.**

  What is logged, and in which form.  A level or a form of an unknown name counts as the
  default one.
-/
import Wayfinder.Settings

namespace Wayfinder

/-- How log entries are written. -/
inductive LogFormat where
  | json | pretty
deriving DecidableEq, Repr

/-- The weight of log entries. -/
inductive LogLevel where
  | trace | debug | info | warn | error
deriving DecidableEq, Repr

/-- The settings of the log. -/
structure LogSettings where
  /-- The level as it was given. -/
  levelName : String
  format : LogFormat
  /-- Whether entries tell the place in the program. -/
  includeLocation : Bool
deriving DecidableEq, Repr

/-- The format with a name. -/
def LogFormat.ofName (name : String) : LogFormat :=
  if Text.asciiLower name = "pretty" then .pretty else .json

/-- The level with a name. -/
def LogLevel.ofName (name : String) : LogLevel :=
  match Text.asciiLower name with
  | "trace" => .trace
  | "debug" => .debug
  | "warn" => .warn
  | "error" => .error
  | _ => .info

/-- The name of a level. -/
def LogLevel.label : LogLevel → String
  | .trace => "TRACE"
  | .debug => "DEBUG"
  | .info => "INFO"
  | .warn => "WARN"
  | .error => "ERROR"

namespace LogSettings

/-- Read the settings.  The place in the program is told only when the value is exactly
    `true`. -/
def ofEnvironment (env : Environment) : LogSettings :=
  { levelName := (env.get? "WILDROUTE_LOG_LEVEL").getD "info"
    format := LogFormat.ofName ((env.get? "WILDROUTE_LOG_FORMAT").getD "json")
    includeLocation := env.get? "WILDROUTE_LOG_INCLUDE_LOCATION" == some "true" }

/-- The settings for development. -/
def forDevelopment : LogSettings :=
  { levelName := "debug", format := .pretty, includeLocation := true }

/-- The level that is meant. -/
def level (s : LogSettings) : LogLevel := LogLevel.ofName s.levelName

end LogSettings

end Wayfinder
