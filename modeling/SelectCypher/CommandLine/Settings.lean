import SelectCypher.CommandLine.Argument
import SelectCypher.Text.Decimal

namespace SelectCypher.CommandLine

/-!
# Settings for all commands

Options in front of the command choose a configuration file and limits.  Each
may be given once.  Those with a value may come from the environment instead,
which counts only where the option itself is absent.  A length limit cannot be
combined with the switch that lifts it.
-/

/-- Why arguments make no sense. -/
inductive UsageError
  | unknownOption (name : String)
  | repeatedOption (name : String)
  | missingValue (name : String)
  | unexpectedValue (name : String)
  | invalidValue (name value : String)
  | conflictingOptions (first second : String)
  | unexpectedArgument (text : String)
  | unknownCommand (name : String)
  | missingCommand
  deriving Repr, DecidableEq

namespace UsageError

/-- What is wrong. -/
def message : UsageError → String
  | unknownOption name => "unknown option " ++ name
  | repeatedOption name => "option given twice: " ++ name
  | missingValue name => "option without its value: " ++ name
  | unexpectedValue name => "option that takes no value: " ++ name
  | invalidValue name value => "invalid value for " ++ name ++ ": " ++ value
  | conflictingOptions first second =>
      "options that exclude each other: " ++ first ++ " and " ++ second
  | unexpectedArgument text => "unexpected argument " ++ text
  | unknownCommand name => "unknown command " ++ name
  | missingCommand => "no command given"

end UsageError

/-- The options that take a value. -/
inductive Setting
  | config
  | maxDepth
  | maxLength
  deriving Repr, DecidableEq

namespace Setting

/-- The long name of a setting. -/
def name : Setting → String
  | config => "config"
  | maxDepth => "max-depth"
  | maxLength => "max-length"

/-- The environment variable of a setting. -/
def variableName : Setting → String
  | config => "SQLGRAPH_CONFIG"
  | maxDepth => "SQLGRAPH_MAX_DEPTH"
  | maxLength => "SQLGRAPH_MAX_LENGTH"

end Setting

/-- The options that take no value. -/
inductive Switch
  | noLengthLimit
  | verbose
  deriving Repr, DecidableEq

namespace Switch

/-- The long name of a switch. -/
def name : Switch → String
  | noLengthLimit => "no-length-limit"
  | verbose => "verbose"

end Switch

/-- An option that may stand in front of the command. -/
inductive Flag
  | setting (setting : Setting)
  | switch (switch : Switch)
  | version
  deriving Repr, DecidableEq

namespace Flag

/-- The option with a long name. -/
def ofName? : String → Option Flag
  | "config" => some (setting .config)
  | "max-depth" => some (setting .maxDepth)
  | "max-length" => some (setting .maxLength)
  | "no-length-limit" => some (switch .noLengthLimit)
  | "verbose" => some (switch .verbose)
  | "version" => some version
  | _ => none

/-- The option with a short name. -/
def ofLetter? : Char → Option Flag
  | 'c' => some (setting .config)
  | 'v' => some (switch .verbose)
  | 'V' => some version
  | _ => none

end Flag

/-- What the options given so far ask for. -/
structure Settings where
  config? : Option String := none
  maxDepth? : Option Nat := none
  maxLength? : Option Nat := none
  noLengthLimit : Bool := false
  verbose : Bool := false
  deriving Repr, DecidableEq

namespace Settings

/-- Whether a setting has a value. -/
def has
    (settings : Settings) :
    Setting →
      Bool
  | .config => settings.config?.isSome
  | .maxDepth => settings.maxDepth?.isSome
  | .maxLength => settings.maxLength?.isSome

/-- The number that is the value of a setting. -/
def number
    (setting : Setting)
    (value : String) :
    Except UsageError Nat :=
  match Text.signedWord? value.toList with
  | some number =>
      .ok number
  | none =>
      .error (.invalidValue setting.name value)

/-- Settings with a value put in. -/
def put
    (settings : Settings)
    (setting : Setting)
    (value : String) :
    Except UsageError Settings := do
  match setting with
  | .config =>
      if value.isEmpty then
        throw (.invalidValue setting.name value)
      return { settings with config? := some value }
  | .maxDepth =>
      return { settings with maxDepth? := some (← number setting value) }
  | .maxLength =>
      return { settings with maxLength? := some (← number setting value) }

/-- Settings with a value put in for the first time. -/
def store
    (settings : Settings)
    (setting : Setting)
    (value : String) :
    Except UsageError Settings :=
  if settings.has setting then
    .error (.repeatedOption setting.name)
  else
    settings.put setting value

/-- Settings with a switch turned on for the first time. -/
def turnOn
    (settings : Settings)
    (switch : Switch) :
    Except UsageError Settings :=
  match switch with
  | .noLengthLimit =>
      if settings.noLengthLimit then
        .error (.repeatedOption switch.name)
      else
        .ok { settings with noLengthLimit := true }
  | .verbose =>
      if settings.verbose then
        .error (.repeatedOption switch.name)
      else
        .ok { settings with verbose := true }

/-- Settings in which a variable stands in for an absent option. -/
def fillFrom
    (settings : Settings)
    (setting : Setting)
    (value? : Option String) :
    Except UsageError Settings :=
  match value? with
  | some value =>
      if settings.has setting then .ok settings else settings.put setting value
  | none =>
      .ok settings

/-- Settings whose options do not exclude each other. -/
def checked (settings : Settings) : Except UsageError Settings :=
  if settings.noLengthLimit && settings.maxLength?.isSome then
    .error (.conflictingOptions "max-length" "no-length-limit")
  else
    .ok settings

end Settings

end SelectCypher.CommandLine
