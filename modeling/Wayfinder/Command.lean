/-
  Wayfinder/Command.lean
  ======================
  **Commands.**

  What the program can be asked to do, and the words in which it is asked.
-/

namespace Wayfinder

/-- How a compiled table is shown. -/
inductive OutputFormat where
  | text | json
deriving DecidableEq, Repr

/-- The format with a name. -/
def OutputFormat.ofName? : String → Option OutputFormat
  | "text" => some .text
  | "json" => some .json
  | _ => none

/-- A command.  Every command starts from the file of a manifest. -/
inductive Command where
  /-- Show the routes and rows of a manifest. -/
  | inspect (routes : String) (format : OutputFormat)
  /-- Resolve paths, with the table kept in a cache if there is one. -/
  | resolve (routes : String) (cache method : Option String) (failOnMiss : Bool)
      (paths : List String)
  /-- Write the compiled table of a manifest into a file. -/
  | compile (routes out : String)
  /-- Resolve the paths on the lines of the input. -/
  | watch (routes : String) (noReload : Bool)
deriving DecidableEq, Repr

/-! ## 1. The words of a command line -/

/-- The first word of a command. -/
inductive Verb where
  | inspect | resolve | compile | watch
deriving DecidableEq, Repr

/-- A verb as it is written. -/
def Verb.word : Verb → String
  | .inspect => "inspect"
  | .resolve => "resolve"
  | .compile => "compile"
  | .watch => "watch"

/-- The verb that a word is. -/
def Verb.ofWord? (word : String) : Option Verb :=
  [Verb.inspect, .resolve, .compile, .watch].find? fun v => v.word == word

/-- What can be set on a command line. -/
inductive Switch where
  | help | routes | format | cache | method | failOnMiss | out | noReload
deriving DecidableEq, Repr

namespace Switch

/-- The long form of a switch, after two hyphens. -/
def long : Switch → String
  | .help => "help"
  | .routes => "routes"
  | .format => "format"
  | .cache => "cache"
  | .method => "method"
  | .failOnMiss => "fail-on-miss"
  | .out => "out"
  | .noReload => "no-reload"

/-- The letter of a switch, after one hyphen. -/
def letter? : Switch → Option Char
  | .help => some 'h'
  | .routes => some 'r'
  | .method => some 'm'
  | .out => some 'o'
  | _ => none

/-- Whether a switch comes with a value. -/
def takesValue : Switch → Bool
  | .help | .failOnMiss | .noReload => false
  | _ => true

/-- Whether a switch can have a value.  A file needs a name. -/
def accepts (value : String) : Switch → Bool
  | .routes | .cache | .out => !value.isEmpty
  | .format => (OutputFormat.ofName? value).isSome
  | _ => true

end Switch

/-- The switches of a verb. -/
def Verb.switches : Verb → List Switch
  | .inspect => [.help, .routes, .format]
  | .resolve => [.help, .routes, .cache, .method, .failOnMiss]
  | .compile => [.help, .routes, .out]
  | .watch => [.help, .routes, .noReload]

/-- Whether a verb is followed by paths. -/
def Verb.takesPaths (v : Verb) : Bool := v == .resolve

end Wayfinder
