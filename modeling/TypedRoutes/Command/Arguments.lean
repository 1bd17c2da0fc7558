import TypedRoutes.Command.Completion
import TypedRoutes.Command.Generate
import TypedRoutes.Manifest.Decode

/-!
Command-line arguments. A command has options, which may come in any order and at most once, and
positional arguments, which come in order. Values of an option may be attached to it or follow it;
two dashes end the options. Arguments are taken one by one, and the first one that does not fit is
the error, except that values are checked only once it is clear that no more of them follow.
-/
namespace TypedRoutes.Command

/-- Why arguments do not lead to a command that can be run. Asking for help or for the version is
among these, as no command is run then either. -/
inductive UsageError where
  | missingArgument
  /-- An option is unknown, or there is one positional argument too many. -/
  | unknownArgument
  /-- A word where a command should be is not one. -/
  | unknownCommand
  /-- Two options exclude each other, or one is given twice. -/
  | conflict
  /-- An option lacks its value, or a value is not among the possible ones. -/
  | invalidValue
  /-- An option that takes no value has one attached. -/
  | surplusValue
  /-- A field value is not written as one. -/
  | badFieldValue (message : String)
  | help
  | version
  /-- There are no arguments at all. -/
  | nothing
deriving DecidableEq, Repr

/-- What an option takes with it. -/
inductive OptionKind where
  /-- Takes one value that is not empty. -/
  | value
  | flag
  | help
deriving DecidableEq, Repr

/-- An option by its long name, and by a letter if it has one. -/
structure OptionSpec where
  long : String
  short : Option Char
  kind : OptionKind
deriving DecidableEq, Repr

/-- A positional argument. One that takes many values is the last one. -/
structure PositionalSpec where
  name : String
  many : Bool
  check : String → Except UsageError Unit

structure ArgumentSpec where
  options : List OptionSpec
  positionals : List PositionalSpec

/-- What values are collected for: an option that is waiting for its value, or a positional argument
that may take more. -/
inductive Target where
  | option (spec : OptionSpec)
  | positional (spec : PositionalSpec)

/-- The name that the values of a target are kept under. -/
def Target.name : Target → String
  | .option spec => spec.long
  | .positional spec => spec.name

/-- How far the arguments have been taken in. The target that is pending may still get values from
the arguments to come. -/
structure Intake where
  /-- The values of every target that is complete. -/
  given : List (String × List String) := []
  /-- The target that values are being collected for, with those there are. -/
  pending : Option (Target × List String) := none
  /-- Whether the pending target is an option that waits for its value. -/
  waiting : Bool := false
  /-- Whether only positional arguments follow. -/
  trailing : Bool := false
  /-- How many positional arguments are complete. -/
  position : Nat := 0

namespace Intake

/-- The values given for a name so far. -/
def valuesOf (intake : Intake) (name : String) : List String :=
  (intake.given.lookup name).getD []

def isGiven (intake : Intake) (name : String) : Bool :=
  intake.given.any (·.1 == name)

def add (intake : Intake) (name : String) (values : List String) : Intake :=
  { intake with
    given := (intake.given.filter (·.1 != name)) ++ [(name, intake.valuesOf name ++ values)] }

/-- Completes an option with its values. An option that was given before cannot be given again. -/
def addOption (intake : Intake) (spec : OptionSpec) (values : List String) :
    Except UsageError Intake :=
  if spec.kind = .value ∧ values.isEmpty then .error .invalidValue
  else if intake.isGiven spec.long then .error .conflict
  else if values.any (· == "") then .error .invalidValue
  else .ok (intake.add spec.long values)

/-- Completes the pending target, which is a misuse when it has not got the value that it waits
for. -/
def settle (intake : Intake) : Except UsageError Intake :=
  let rest := { intake with pending := none, waiting := false }
  match intake.pending with
  | none => .ok rest
  | some (.option spec, values) => rest.addOption spec values
  | some (.positional spec, values) => do
    values.forM spec.check
    return rest.add spec.name values

/-- Takes an option with the value attached to it, if there is one. -/
def takeOption (intake : Intake) (spec : OptionSpec) (attached : Option String) :
    Except UsageError Intake := do
  let settled ← intake.settle
  match spec.kind, attached with
  | .value, some value => settled.addOption spec [value]
  | .value, none => return { settled with pending := some (.option spec, []), waiting := true }
  | .flag, _ => settled.addOption spec []
  | .help, _ => throw .help

def takeLong (spec : ArgumentSpec) (intake : Intake) (text : List Char) :
    Except UsageError Intake := do
  let name := String.ofList (text.takeWhile (· != '='))
  let attached := match text.dropWhile (· != '=') with
    | _ :: value => some (String.ofList value)
    | [] => none
  match spec.options.find? (·.long == name) with
  | none => throw .unknownArgument
  | some option =>
    if option.kind ≠ .value ∧ attached.isSome then throw .surplusValue
    intake.takeOption option attached

/-- Takes options by their letters. The first one with a value has the rest for it. -/
def takeShort (spec : ArgumentSpec) (intake : Intake) : List Char → Except UsageError Intake
  | [] => .ok intake
  | letter :: rest => do
    match spec.options.find? (·.short == some letter) with
    | none => throw .unknownArgument
    | some option =>
      if option.kind = .value then
        let attached := match rest with
          | [] => none
          | '=' :: value => some (String.ofList value)
          | value => some (String.ofList value)
        intake.takeOption option attached
      else
        takeShort spec (← intake.takeOption option none) rest

def takePositional (spec : ArgumentSpec) (intake : Intake) (text : String) :
    Except UsageError Intake :=
  match spec.positionals[intake.position]? with
  | none => .error .unknownArgument
  | some positional => do
    match intake.pending with
    | some (.positional current, values) =>
      if current.name = positional.name ∧ positional.many then
        return { intake with pending := some (.positional current, values ++ [text]) }
    | _ => pure ()
    let settled ← intake.settle
    return { settled with
      pending := some (.positional positional, [text])
      position := if positional.many then intake.position else intake.position + 1 }

/-- Takes the value that the pending option waits for. -/
def takeValue (intake : Intake) (text : String) : Intake :=
  { intake with
    pending := intake.pending.map fun (target, values) => (target, values ++ [text])
    waiting := false }

def take (spec : ArgumentSpec) (intake : Intake) (text : String) : Except UsageError Intake :=
  if intake.trailing then takePositional spec intake text
  else
    match text.toList with
    | ['-', '-'] => .ok { intake with trailing := true }
    | '-' :: '-' :: rest => takeLong spec intake rest
    | '-' :: c :: rest => takeShort spec intake (c :: rest)
    | _ =>
      if intake.waiting then .ok (intake.takeValue text) else takePositional spec intake text

def takeAll (spec : ArgumentSpec) (arguments : List String) : Except UsageError Intake := do
  (← arguments.foldlM (take spec) {}).settle

end Intake

/-- A command with all that it is given. -/
inductive Invocation where
  | generate (config : String) (output : Option String) (dryRun visualize : Bool)
  | check (config : String)
  | explain (config : String)
  | route (config declaration : String) (values : List (String × String))
  | completions (shell : Shell)
deriving DecidableEq, Repr

/-- The shell of an argument. -/
def shellOf (name : String) : Except UsageError Shell :=
  match Shell.ofName? name with
  | some shell => .ok shell
  | none => .error .invalidValue

/-- A field value as it is given, the field before the first equals sign. The value may be empty,
the field may not. -/
def fieldValue (text : String) : Except UsageError (String × String) :=
  let field := text.toList.takeWhile (· != '=')
  match text.toList.dropWhile (· != '=') with
  | [] => .error (.badFieldValue ("expected field=value, got '" ++ text ++ "'"))
  | _ :: value =>
    if field.isEmpty then .error (.badFieldValue ("missing field name in '" ++ text ++ "'"))
    else .ok (String.ofList field, String.ofList value)

/-- The option that every command has. -/
def helpOption : OptionSpec := ⟨"help", some 'h', .help⟩

def configOption : OptionSpec := ⟨"config", some 'c', .value⟩

/-- The arguments of a command of the given name. -/
def argumentsOf? : String → Option ArgumentSpec
  | "generate" => some {
      options := [configOption, ⟨"output", some 'o', .value⟩, ⟨"dry-run", none, .flag⟩,
        ⟨"visualize", none, .flag⟩, helpOption]
      positionals := [] }
  | "check" | "explain" => some { options := [configOption, helpOption], positionals := [] }
  | "route" => some {
      options := [configOption, helpOption]
      positionals := [
        ⟨"declaration", false, fun _ => .ok ()⟩,
        ⟨"values", true, fun text => discard (fieldValue text)⟩] }
  | "completions" => some {
      options := [helpOption]
      positionals := [⟨"shell", false, fun text => discard (shellOf text)⟩] }
  | _ => none

/-- The command that complete arguments lead to. What is left out has its default here. -/
def invocation (name : String) (intake : Intake) : Except UsageError Invocation := do
  let config := (intake.valuesOf "config").headD Manifest.defaultFile
  match name with
  | "generate" =>
    if intake.isGiven "dry-run" && intake.isGiven "visualize" then throw .conflict
    return .generate config (intake.valuesOf "output").head? (intake.isGiven "dry-run")
      (intake.isGiven "visualize")
  | "check" => return .check config
  | "explain" => return .explain config
  | "route" =>
    match (intake.valuesOf "declaration").head? with
    | some declaration =>
      return .route config declaration (← (intake.valuesOf "values").mapM fieldValue)
    | none => throw .missingArgument
  | _ =>
    match (intake.valuesOf "shell").head? with
    | some shell => return .completions (← shellOf shell)
    | none => throw .missingArgument

/-- Whether a word names a command, the one for help included. -/
def isCommand (word : String) : Bool :=
  word == "help" || (argumentsOf? word).isSome

/-- What asking for help on further words leads to. Only commands can be asked about, and they have
no commands of their own. -/
def helpOn : List String → UsageError
  | [] => .help
  | [word] => if isCommand word then .help else .unknownCommand
  | _ => .unknownCommand

/-- The command that arguments lead to, word for word as they were given to the program. -/
def parseArguments : List String → Except UsageError Invocation
  | [] => .error .nothing
  | ["--"] => .error .nothing
  | "--" :: word :: _ => .error (if isCommand word then .unknownArgument else .unknownCommand)
  | "help" :: words => .error (helpOn words)
  | word :: rest =>
    match argumentsOf? word with
    | some spec => do invocation word (← Intake.takeAll spec rest)
    | none =>
      .error (match word.toList with
        | '-' :: '-' :: long =>
          let name := String.ofList (long.takeWhile (· != '='))
          if name != "help" && name != "version" then .unknownArgument
          else if long.contains '=' then .surplusValue
          else if name == "help" then .help
          else .version
        | '-' :: 'h' :: _ => .help
        | '-' :: 'V' :: _ => .version
        | '-' :: _ :: _ => .unknownArgument
        | _ => .unknownCommand)

end TypedRoutes.Command
