import SelectCypher.CommandLine.Settings

namespace SelectCypher.CommandLine

/-!
# Requests

Arguments ask for the version or for one run of a command.  Options for all
commands come first, then the command, then its query and its own switch in any
order.  The first thing wrong, from left to right, decides.
-/

/-- The names of the commands. -/
inductive CommandName
  | tokens
  | parse
  | format
  | translate
  | examples
  deriving Repr, DecidableEq

namespace CommandName

/-- The command with a name. -/
def ofText? : String → Option CommandName
  | "tokens" => some tokens
  | "parse" => some parse
  | "format" => some format
  | "translate" => some translate
  | "examples" => some examples
  | _ => none

/-- The short and the long name of the switch of a command. -/
def switch? : CommandName → Option (Char × String)
  | parse => some ('p', "pretty")
  | translate => some ('t', "timing")
  | _ => none

/-- Whether a command works on a query. -/
def takesQuery : CommandName → Bool
  | examples => false
  | _ => true

end CommandName

/-- A command with what stands behind it. -/
structure Command where
  name : CommandName
  query? : Option String := none
  /-- Whether the switch of the command is on. -/
  switched : Bool := false
  deriving Repr, DecidableEq

namespace Command

/-- A command with a query, which it must take and not yet have. -/
def putQuery
    (command : Command)
    (query : String) :
    Except UsageError Command :=
  if command.name.takesQuery && command.query?.isNone then
    .ok { command with query? := some query }
  else
    .error (.unexpectedArgument query)

/-- A command with its switch turned on for the first time. -/
def turnOn
    (command : Command)
    (name : String) :
    Except UsageError Command :=
  if command.switched then
    .error (.repeatedOption name)
  else
    .ok { command with switched := true }

/-- A command with its switch turned on by its long name. -/
def turnOnNamed
    (command : Command)
    (name : String) :
    Except UsageError Command :=
  if command.name.switch?.any (·.2 == name) then
    command.turnOn name
  else
    .error (.unknownOption name)

/-- A command with its switch turned on by each of some letters. -/
def turnOnLetters
    (command : Command)
    (letters : List Char) :
    Except UsageError Command :=
  letters.foldlM
    (fun current letter =>
      if current.name.switch?.any (·.1 == letter) then
        current.turnOn letter.toString
      else
        .error (.unknownOption letter.toString))
    command

/-- A command with the arguments that stand behind it. -/
def readArguments
    (command : Command) :
    List String →
      Except UsageError Command
  | [] =>
      .ok command
  | text :: rest =>
      match Argument.ofText text with
      | .separator =>
          rest.foldlM putQuery command
      | .long name none => do
          readArguments (← command.turnOnNamed name) rest
      | .long name (some _) =>
          .error (.unexpectedValue name)
      | .short letters => do
          readArguments (← command.turnOnLetters letters) rest
      | .plain query => do
          readArguments (← command.putQuery query) rest

end Command

/-- A run of a command under some settings. -/
structure Invocation where
  settings : Settings
  command : Command
  deriving Repr, DecidableEq

/-- What arguments ask for. -/
inductive Request
  | version
  | invoke (invocation : Invocation)
  deriving Repr, DecidableEq

/-- What follows from a row of short options. -/
inductive Letters
  | done (settings : Settings)
  /-- The last option takes its value from the next argument. -/
  | awaiting (settings : Settings) (setting : Setting)
  | version
  deriving Repr, DecidableEq

/-- The value that letters behind a short option stand for. -/
def attachedValue : List Char → String
  | '=' :: value => String.ofList value
  | value => String.ofList value

/-- Follow a row of short options. -/
def Letters.read
    (settings : Settings) :
    List Char →
      Except UsageError Letters
  | [] =>
      .ok (.done settings)
  | letter :: rest =>
      match Flag.ofLetter? letter with
      | none =>
          .error (.unknownOption letter.toString)
      | some .version =>
          .ok .version
      | some (.switch switch) => do
          Letters.read (← settings.turnOn switch) rest
      | some (.setting setting) =>
          if rest.isEmpty then
            .ok (.awaiting settings setting)
          else do
            return .done (← settings.store setting (attachedValue rest))

namespace Request

/-- What follows from the command and the arguments behind it. -/
def readCommand
    (settings : Settings)
    (name : String)
    (arguments : List String) :
    Except UsageError Request :=
  match CommandName.ofText? name with
  | none =>
      .error (.unknownCommand name)
  | some command => do
      let command ← Command.readArguments { name := command } arguments
      return .invoke { settings, command }

/--
What follows from arguments.  Behind `--` there is no command, since only
options can be in its place.
-/
def read
    (settings : Settings) :
    List String →
      Except UsageError Request
  | [] =>
      .error .missingCommand
  | text :: rest =>
      match Argument.ofText text with
      | .separator =>
          .error .missingCommand
      | .plain name =>
          readCommand settings name rest
      | .short letters => do
          match ← Letters.read settings letters with
          | .version =>
              return version
          | .done settings =>
              read settings rest
          | .awaiting settings setting =>
              match rest with
              | [] =>
                  throw (.missingValue setting.name)
              | next :: later =>
                  match (Argument.ofText next).value? with
                  | some value =>
                      read (← settings.store setting value) later
                  | none =>
                      throw (.missingValue setting.name)
      | .long name value? =>
          match Flag.ofName? name, value? with
          | none, _ =>
              .error (.unknownOption name)
          | some .version, none =>
              .ok version
          | some (.switch switch), none => do
              read (← settings.turnOn switch) rest
          | some (.setting setting), some value => do
              read (← settings.store setting value) rest
          | some (.setting setting), none =>
              match rest with
              | [] =>
                  .error (.missingValue setting.name)
              | next :: later =>
                  match (Argument.ofText next).value? with
                  | some value => do
                      read (← settings.store setting value) later
                  | none =>
                      .error (.missingValue setting.name)
          | some _, some _ =>
              .error (.unexpectedValue name)

/-- What arguments ask for. -/
def ofArguments (arguments : List String) : Except UsageError Request :=
  read {} arguments

end Request

end SelectCypher.CommandLine
