/-
  Wayfinder/Command/Arguments.lean
  ================================
  **Reading command lines.**

  A command line is a verb, then switches and paths in any order.  A switch has a long
  form, `--name` or `--name=value`, or a letter; letters without values can be joined
  behind one hyphen, and a letter's value may follow it directly.  After `--` every
  argument is a path.

  A value in an argument of its own is checked only when the next switch or path is
  taken or the line ends, so a switch that is not known is told first.
-/
import Wayfinder.Command
import Wayfinder.Settings

namespace Wayfinder

/-! ## 1. Faults -/

/-- Why a command line asks for no command. -/
inductive UsageFault where
  /-- There is nothing on it. -/
  | nothingAsked
  /-- It asks for help. -/
  | helpAsked
  /-- A word in the place of a verb is none. -/
  | unknownVerb
  /-- A switch is not known, or a path is not wanted. -/
  | unknownArgument
  /-- A switch lacks its value, or cannot have the value. -/
  | badValue
  /-- A switch that takes no value has one. -/
  | unwantedValue
  /-- A switch is set twice. -/
  | repeated
  /-- Something that a command needs is missing. -/
  | missing
deriving DecidableEq, Repr

/-- The fault in words. -/
def UsageFault.message : UsageFault → String
  | .nothingAsked => "no command given"
  | .helpAsked => "usage: wayfinder inspect|resolve|compile|watch --routes FILE ..."
  | .unknownVerb => "unknown command"
  | .unknownArgument => "unexpected argument"
  | .badValue => "missing or invalid value"
  | .unwantedValue => "unexpected value"
  | .repeated => "an argument cannot be used multiple times"
  | .missing => "a required argument was not provided"

/-! ## 2. What has been read -/

/-- What has been read of a command line after its verb. -/
structure Arguments where
  /-- The switches that are set, with their values. -/
  settings : List (Switch × String)
  paths : List String
  /-- A switch that waits for its value, or has it and waits to be set. -/
  pending : Option (Switch × Option String)
deriving DecidableEq, Repr

namespace Arguments

/-- Nothing yet. -/
def empty : Arguments := ⟨[], [], none⟩

/-- The value of a switch, if it is set. -/
def value? (a : Arguments) (s : Switch) : Option String := a.settings.lookup s

/-- Set a switch. -/
def set (a : Arguments) (s : Switch) (value : String) : Except UsageFault Arguments :=
  if (a.value? s).isSome then .error .repeated
  else if s.accepts value then .ok { a with settings := a.settings ++ [(s, value)] }
  else .error .badValue

/-- Set the switch that waits to be set. -/
def settle (a : Arguments) : Except UsageFault Arguments :=
  match a.pending with
  | none => .ok a
  | some (_, none) => .error .badValue
  | some (s, some value) => { a with pending := none }.set s value

/-- Take a switch that came with a value, or without one. -/
def takeSwitch (a : Arguments) (s : Switch) (value : Option String) :
    Except UsageFault Arguments := do
  match s.takesValue, value with
  | true, none => return { ← a.settle with pending := some (s, none) }
  | true, some value => (← a.settle).set s value
  | false, some _ => .error .unwantedValue
  | false, none =>
    let a ← a.settle
    if s = .help then .error .helpAsked else a.set s ""

/-- Take letters behind one hyphen. -/
def takeLetters (v : Verb) (a : Arguments) : List Char → Except UsageFault Arguments
  | [] => .ok a
  | c :: rest =>
    match v.switches.find? fun s => s.letter? = some c with
    | none => .error .unknownArgument
    | some s =>
      if s.takesValue then
        match rest with
        | [] => a.takeSwitch s none
        | '=' :: value => a.takeSwitch s (some (String.ofList value))
        | value => a.takeSwitch s (some (String.ofList value))
      else
        match a.takeSwitch s none with
        | .ok a => takeLetters v a rest
        | .error e => .error e

/-- The name and the value of a long form. -/
def splitLong (cs : List Char) : String × Option String :=
  (String.ofList (cs.takeWhile (· ≠ '=')),
    match cs.dropWhile (· ≠ '=') with
    | _ :: value => some (String.ofList value)
    | [] => none)

/-- Take a long form. -/
def takeLong (v : Verb) (a : Arguments) (cs : List Char) : Except UsageFault Arguments :=
  match v.switches.find? fun s => s.long == (splitLong cs).1 with
  | none => .error .unknownArgument
  | some s => a.takeSwitch s (splitLong cs).2

/-- Take a path. -/
def takePath (v : Verb) (a : Arguments) (arg : String) : Except UsageFault Arguments := do
  if v.takesPaths then
    let a ← a.settle
    return { a with paths := a.paths ++ [arg] }
  else .error .unknownArgument

/-- Take an argument that is neither a long form nor letters: the value of the switch that
    waits for one, or a path. -/
def takeWord (v : Verb) (a : Arguments) (arg : String) : Except UsageFault Arguments :=
  match a.pending with
  | some (s, none) => .ok { a with pending := some (s, some arg) }
  | _ => a.takePath v arg

/-- Take arguments in order. -/
def takeAll (v : Verb) (a : Arguments) : List String → Except UsageFault Arguments
  | [] => .ok a
  | arg :: args =>
    match arg.toList with
    | ['-', '-'] => args.foldlM (takePath v) a
    | '-' :: '-' :: cs => (a.takeLong v cs).bind fun a => takeAll v a args
    | '-' :: c :: cs => (a.takeLetters v (c :: cs)).bind fun a => takeAll v a args
    | _ => (a.takeWord v arg).bind fun a => takeAll v a args

/-! ## 3. Commands -/

/-- The variable that names the manifest when the command line does not. -/
def routesVariable : String := "WILDROUTE_ROUTES"

/-- Let the environment say what the command line does not. -/
def complete (env : Environment) (a : Arguments) : Except UsageFault Arguments :=
  match a.value? .routes, env.get? routesVariable with
  | none, some routes => a.set .routes routes
  | _, _ => .ok a

/-- The command that a verb makes of the arguments, if none is missing. -/
def toCommand? (a : Arguments) (v : Verb) : Option Command := do
  let routes ← a.value? .routes
  match v with
  | .inspect => some (.inspect routes (((a.value? .format).bind OutputFormat.ofName?).getD .text))
  | .resolve =>
    if a.paths.isEmpty then none
    else some (.resolve routes (a.value? .cache) (a.value? .method)
      (a.value? .failOnMiss).isSome a.paths)
  | .compile => return .compile routes (← a.value? .out)
  | .watch => some (.watch routes (a.value? .noReload).isSome)

end Arguments

/-- The command of a verb and the arguments after it. -/
def Verb.command (v : Verb) (env : Environment) (args : List String) :
    Except UsageFault Command := do
  let a ← (← (← Arguments.empty.takeAll v args).settle).complete env
  match a.toCommand? v with
  | some c => .ok c
  | none => .error .missing

namespace Command

/-- Whether a word is a verb or asks for help. -/
def isKnownWord (word : String) : Bool := word == "help" || (Verb.ofWord? word).isSome

/-- What comes of asking for help with some words: help, with at most one known word. -/
def helpFor : List String → UsageFault
  | [] => .helpAsked
  | [word] => if isKnownWord word then .helpAsked else .unknownVerb
  | _ => .unknownVerb

/-- The fault of a first argument that starts with hyphens. -/
def leadingSwitchFault (cs : List Char) : UsageFault :=
  match cs with
  | '-' :: '-' :: cs =>
    match Arguments.splitLong cs with
    | ("help", none) => .helpAsked
    | ("help", some _) => .unwantedValue
    | _ => .unknownArgument
  | '-' :: 'h' :: _ => .helpAsked
  | _ => .unknownArgument

/-- The command that the arguments of the program ask for. -/
def ofArguments (env : Environment) : List String → Except UsageFault Command
  | [] => .error .nothingAsked
  | "help" :: words => .error (helpFor words)
  | ["--"] => .error .nothingAsked
  | "--" :: word :: _ =>
    .error (if isKnownWord word then .unknownArgument else .unknownVerb)
  | word :: args =>
    match Verb.ofWord? word with
    | some v => v.command env args
    | none =>
      match word.toList with
      | '-' :: _ :: _ => .error (leadingSwitchFault word.toList)
      | _ => .error .unknownVerb

end Command

end Wayfinder
