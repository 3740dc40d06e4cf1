import ChangeRouting.CommandLine.Help

/-!
# ChangeRouting.CommandLine.Arguments

What the arguments of the command line ask for.

* Options come before the command they are for: the general ones first, then a command, then the options
  of that command.
* An option that takes a value takes it from the same argument (`--config=x`, `-cx`, `-c=x`) or from the
  next one, which must not look like an option.
* No option may be given twice, and a path may not be empty.
* After `--` nothing is an option, and there is no command that takes anything else.
-/

namespace ChangeRouting

/-- What is to be done. -/
inductive Command
  /-- Run cycle after cycle. -/
  | run
  /-- Run one cycle and print its report. -/
  | route
  /-- List the gaps, the active ones or all. -/
  | gaps (all : Bool)
  /-- Sum up the batches by node. -/
  | batches
  /-- Write a configuration to begin with. -/
  | init (output node : String)
  /-- Check the configuration. -/
  | validate
  /-- Show what the configuration says about this node. -/
  | info
  deriving DecidableEq, Repr

/-- Where a configuration is looked for, and written, unless an option says otherwise. -/
def defaultConfigPath : String := "wolfroute.toml"

/-- A command with the general options. -/
structure Invocation where
  config : String
  /-- What to log instead of what the configuration says. -/
  logLevel : Option String
  command : Command
  deriving DecidableEq, Repr

/-- What the arguments ask for. -/
inductive Request
  | perform (invocation : Invocation)
  /-- Only to print a text about the program. -/
  | print (text : String)
  deriving DecidableEq, Repr

/-- Why arguments are refused. -/
inductive UsageFault
  | unexpected (argument : String)
  | unknownCommand (name : String)
  | missingCommand
  | missingValue (option : String)
  | unexpectedValue (option : String)
  | emptyPath (option : String)
  | repeated (option : String)
  deriving DecidableEq, Repr

/-- What the operator is told. -/
def UsageFault.message : UsageFault → String
  | unexpected argument => s!"error: unexpected argument '{argument}' found"
  | unknownCommand name => s!"error: unrecognized subcommand '{name}'"
  | missingCommand => "error: a subcommand is required but one was not provided"
  | missingValue option => s!"error: a value is required for '--{option}' but none was supplied"
  | unexpectedValue option => s!"error: unexpected value for '--{option}' found; no more were expected"
  | emptyPath option => s!"error: a value is required for '--{option}' but none was supplied"
  | repeated option => s!"error: the argument '--{option}' cannot be used multiple times"

namespace Arguments

/-! ## options -/

/-- What an option takes. -/
inductive OptionKind
  /-- Nothing; giving it is all. -/
  | flag
  | text
  /-- A text that is not empty. -/
  | path
  /-- Nothing; it asks for a text about the program. -/
  | about (text : String)
  deriving DecidableEq, Repr

/-- An option. -/
structure OptionSpec where
  long : String
  short : Option Char
  kind : OptionKind
  deriving DecidableEq, Repr

/-- The options that were given, with their values. -/
abbrev Given := List (String × String)

/-- How the reading of options ends. -/
inductive Options
  /-- At an argument that is no option, or at the end; `rest` begins with that argument.  When `closed`,
  a `--` stood before it. -/
  | given (given : Given) (rest : List String) (closed : Bool)
  | print (text : String)
  deriving DecidableEq, Repr

/-- Whether an argument is an option, or several in one. -/
def looksLikeOption (argument : String) : Bool :=
  match argument.toList with
  | '-' :: _ :: _ => true
  | _ => false

/-- Add an option that was given. -/
def Given.add (given : Given) (spec : OptionSpec) (value : String) : Except UsageFault Given :=
  if (given.lookup spec.long).isSome then .error (.repeated spec.long)
  else if spec.kind = .path ∧ value = "" then .error (.emptyPath spec.long)
  else .ok ((spec.long, value) :: given)

/-- One step of reading options: what was given, the arguments left, or a text to print. -/
inductive Step
  | next (given : Given) (rest : List String)
  | print (text : String)
  deriving DecidableEq, Repr

/-- Read an option whose value, if there is one in the same argument, is known. -/
def OptionSpec.take (spec : OptionSpec) (attached : Option String) (given : Given)
    (rest : List String) : Except UsageFault Step :=
  match spec.kind, attached with
  | .about text, none => .ok (.print text)
  | .flag, none => return .next (← given.add spec "") rest
  | .about _, some _ | .flag, some _ => .error (.unexpectedValue spec.long)
  | _, some value => return .next (← given.add spec value) rest
  | _, none =>
    match rest with
    | value :: rest =>
      if looksLikeOption value then .error (.missingValue spec.long)
      else return .next (← given.add spec value) rest
    | [] => .error (.missingValue spec.long)

/-- The characters of an argument of short options, the leading `-` apart. -/
def takeShort (specs : List OptionSpec) (given : Given) (argument : String) (rest : List String) :
    List Char → Except UsageFault Step
  | [] => .ok (.next given rest)
  | letter :: letters =>
    match specs.find? (·.short = some letter) with
    | none => .error (.unexpected argument)
    | some spec =>
      match spec.kind with
      | .flag => do takeShort specs (← given.add spec "") argument rest letters
      | .about text => .ok (.print text)
      | _ =>
        let attached :=
          match letters with
          | [] => none
          | '=' :: value => some (String.ofList value)
          | value => some (String.ofList value)
        spec.take attached given rest

/-- The name of a long option and the value behind `=`. -/
def splitLong (body : List Char) : String × Option String :=
  let name := body.takeWhile (· ≠ '=')
  (String.ofList name,
    match body.drop name.length with
    | _ :: value => some (String.ofList value)
    | [] => none)

/-- One step on an argument that looks like an option. -/
def takeOption (specs : List OptionSpec) (given : Given) (argument : String) (rest : List String) :
    Except UsageFault Step :=
  match argument.toList with
  | '-' :: '-' :: body =>
    let (name, attached) := splitLong body
    match specs.find? (·.long = name) with
    | some spec => spec.take attached given rest
    | none => .error (.unexpected argument)
  | _ :: letters => takeShort specs given argument rest letters
  | [] => .error (.unexpected argument)

/-- Read options up to the first argument that is none.  Every step uses up an argument, so as many
steps as there are arguments are enough. -/
def takeOptions (specs : List OptionSpec) : Nat → Given → List String → Except UsageFault Options
  | _, given, [] => .ok (.given given [] false)
  | 0, given, rest => .ok (.given given rest false)
  | fuel + 1, given, argument :: rest => do
    if argument = "--" then return .given given rest true
    if !looksLikeOption argument then return .given given (argument :: rest) false
    match ← takeOption specs given argument rest with
    | .next given rest => takeOptions specs fuel given rest
    | .print text => return .print text

/-! ## commands -/

/-- The options of the program. -/
def generalOptions : List OptionSpec :=
  [⟨"config", some 'c', .path⟩, ⟨"log-level", some 'l', .text⟩,
    ⟨"help", some 'h', .about Help.program⟩, ⟨"version", some 'V', .about Help.version⟩]

/-- The options of a command. -/
def commandOptions (name : String) : List OptionSpec :=
  let help : OptionSpec := ⟨"help", some 'h', .about ((Help.command? name).getD "")⟩
  match name with
  | "gaps" => [⟨"all", none, .flag⟩, help]
  | "init" => [⟨"output", some 'o', .path⟩, ⟨"node-id", none, .text⟩, help]
  | _ => [help]

/-- The command of a name with its options. -/
def commandOf? (name : String) (given : Given) : Option Command :=
  match name with
  | "run" => some .run
  | "route" => some .route
  | "gaps" => some (.gaps (given.lookup "all").isSome)
  | "batches" => some .batches
  | "init" => some (.init ((given.lookup "output").getD defaultConfigPath)
      ((given.lookup "node-id").getD "00000"))
  | "validate" => some .validate
  | "info" => some .info
  | _ => none

end Arguments

/-- What is asked for behind the word `help`. -/
def Request.ofHelp : List String → Except UsageFault Request
  | [] => .ok (.print Help.program)
  | [name] =>
    match Help.command? name with
    | some text => .ok (.print text)
    | none => .error (.unknownCommand name)
  | _ :: name :: _ => .error (.unknownCommand name)

open Arguments in
/-- What the arguments ask for. -/
def Request.ofArguments (arguments : List String) : Except UsageFault Request := do
  match ← takeOptions generalOptions arguments.length [] arguments with
  | .print text => return .print text
  | .given _ [] _ => throw .missingCommand
  | .given _ (argument :: _) true => throw (.unexpected argument)
  | .given general (name :: rest) false =>
    if name = "help" then ofHelp rest
    else if (commandOf? name []).isNone then throw (.unknownCommand name)
    else
      match ← takeOptions (commandOptions name) rest.length [] rest with
      | .print text => return .print text
      | .given _ (argument :: _) _ => throw (.unexpected argument)
      | .given given [] _ =>
        match commandOf? name given with
        | some command =>
          return .perform ⟨(general.lookup "config").getD defaultConfigPath,
            general.lookup "log-level", command⟩
        | none => throw (.unknownCommand name)

end ChangeRouting
