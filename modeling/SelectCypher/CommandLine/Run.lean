import SelectCypher.CommandLine.Request
import SelectCypher.Json.Limits
import SelectCypher.Json.Query
import SelectCypher.Translation.Examples

namespace SelectCypher.CommandLine

/-!
# Running a request

The limits of a run are those of the configuration file, or else the defaults of
the command, with the options put over them.  The configuration is read first,
then the query, and then the command works; the first of these to fail ends the
run, and a run that fails has no output.
-/

/-- What a run can ask of its surroundings. -/
structure Surroundings (m : Type → Type) where
  /-- The value of an environment variable, if it is set. -/
  environment : String → m (Option String)
  /-- The text of a file, if there is one that can be read. -/
  file : String → m (Option String)
  /-- The text of the standard input, if it can be read. -/
  input : m (Option String)

/-- Why a run fails. -/
inductive Failure
  | unreadableConfig (path : String)
  | invalidConfig (path : String)
  | unreadableInput
  | lexical (error : LexicalError)
  | query (error : QueryError)
  | translation (error : TranslationError)
  deriving Repr, DecidableEq

namespace Failure

/-- What is wrong. -/
def message : Failure → String
  | unreadableConfig path => "Failed to read config " ++ path
  | invalidConfig path => "Invalid config " ++ path
  | unreadableInput => "Failed to read query from stdin"
  | lexical error => error.message
  | query error => error.message
  | translation error => error.message

end Failure

/-- How a run ends. -/
inductive Outcome
  | success (output : String)
  | failure (cause : Failure)
  | usage (error : UsageError)
  deriving Repr, DecidableEq

namespace Outcome

/-- The exit code of a run. -/
def exitCode : Outcome → Nat
  | success _ => 0
  | failure _ => 1
  | usage _ => 2

/-- What a run writes to the standard output. -/
def output : Outcome → String
  | success output => output
  | _ => ""

end Outcome

/-- The line that tells the version. -/
def versionLine : String :=
  "sqlgraph 0.1.0\n"

/-- The limits of a command unless a configuration or an option says otherwise. -/
def CommandName.limits : CommandName → Limits
  | .translate => translationLimits
  | _ => {}

/-- Limits with the options put over them. -/
def Settings.override
    (settings : Settings)
    (limits : Limits) :
    Limits where
  maxDepth := settings.maxDepth?.getD limits.maxDepth
  maxLength? :=
    if settings.noLengthLimit then
      none
    else
      settings.maxLength? <|> limits.maxLength?

/-- One token on a line: its position, its kind and its text in quotes. -/
def tokenLine (token : Token) : String :=
  token.position.render ++ " " ++ token.kind.tag ++ " '" ++ token.text ++ "'\n"

/-- One example: a description, a query and its translation. -/
def exampleText (shown : Example) : String :=
  "-- " ++ shown.description ++ "\n" ++ shown.query ++ "\n" ++ shown.cypher ++
    "\n\n"

/-- The output of the examples. -/
def examplesText : String :=
  String.join (examples.map exampleText)

/-- The JSON text of a query. -/
def queryJson
    (pretty : Bool)
    (query : Query) :
    String :=
  if pretty then Json.indented query.toJson else Json.compact query.toJson

/-- The output of a command on a query. -/
def Command.output
    (command : Command)
    (limits : Limits)
    (text : String) :
    Except Failure String :=
  match command.name with
  | .tokens => do
      let tokens ← (tokenize text).mapError .lexical
      return String.join (tokens.map tokenLine)
  | .parse => do
      let query ← (Query.ofText text limits).mapError .query
      return queryJson command.switched query ++ "\n"
  | .format => do
      let query ← (Query.ofText text limits).mapError .query
      return query.canonical ++ "\n"
  | .translate => do
      let translation ← (translate text limits).mapError .translation
      return translation.cypher ++ "\n"
  | .examples =>
      .ok examplesText

/-- The limits that a configuration text holds. -/
def configLimits
    (path text : String) :
    Except Failure Limits :=
  (Json.decode Limits.decoder text).mapError fun _ => .invalidConfig path

section Steps

variable {m : Type → Type} [Monad m]

/-- Settings in which the environment stands in for absent options. -/
def Settings.withVariables
    (settings : Settings)
    (surroundings : Surroundings m) :
    m (Except UsageError Settings) := do
  let config? ← surroundings.environment Setting.config.variableName
  let maxDepth? ← surroundings.environment Setting.maxDepth.variableName
  let maxLength? ← surroundings.environment Setting.maxLength.variableName
  return do
    let settings ← settings.fillFrom .config config?
    let settings ← settings.fillFrom .maxDepth maxDepth?
    let settings ← settings.fillFrom .maxLength maxLength?
    settings.checked

/-- The limits a run starts from: those of its configuration or its command. -/
def Invocation.baseLimits
    (invocation : Invocation)
    (surroundings : Surroundings m) :
    ExceptT Failure m Limits := do
  match invocation.settings.config? with
  | none =>
      return invocation.command.name.limits
  | some path =>
      match ← surroundings.file path with
      | none =>
          throw (.unreadableConfig path)
      | some text =>
          configLimits path text

/-- The query of a command, from its arguments or from the standard input. -/
def Command.text
    (command : Command)
    (surroundings : Surroundings m) :
    ExceptT Failure m String := do
  if command.name.takesQuery then
    match command.query? with
    | some query =>
        return query
    | none =>
        match ← surroundings.input with
        | some text =>
            return text
        | none =>
            throw .unreadableInput
  else
    return ""

/-- Run a command under its settings. -/
def Invocation.run
    (invocation : Invocation)
    (surroundings : Surroundings m) :
    ExceptT Failure m String := do
  let base ← invocation.baseLimits surroundings
  let text ← invocation.command.text surroundings
  invocation.command.output (invocation.settings.override base) text

/-- Run what some arguments ask for. -/
def run
    (surroundings : Surroundings m)
    (arguments : List String) :
    m Outcome := do
  match Request.ofArguments arguments with
  | .error error =>
      return .usage error
  | .ok .version =>
      return .success versionLine
  | .ok (.invoke invocation) =>
      match ← invocation.settings.withVariables surroundings with
      | .error error =>
          return .usage error
      | .ok settings =>
          match ← ({ invocation with settings := settings }.run surroundings).run with
          | .ok output =>
              return .success output
          | .error cause =>
              return .failure cause

end Steps

end SelectCypher.CommandLine
