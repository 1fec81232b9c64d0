import SelectCypher.CommandLine.Run

namespace SelectCypher.CommandLine

/-!
# Surroundings that hold something

A world is what the surroundings of a run hold.  It answers what it is asked for and
keeps the questions, so that it can be told how a run ends and what it never asked for.
A run with accepted arguments asks for the variables and then runs its command: first
the limits, then the text, and then the output.
-/

/-- What the surroundings of a run hold. -/
structure World where
  environment : String → Option String
  file : String → Option String
  input? : Option String

/-- What a run can ask its surroundings for. -/
inductive Question
  | environment (name : String)
  | file (path : String)
  | input
  deriving Repr, DecidableEq

/-- How a run ends that comes to a result. -/
def Outcome.ofResult : Except Failure String → Outcome
  | .ok output => success output
  | .error cause => failure cause

namespace World

/-- Answer a question, which is kept behind those asked before. -/
def answer
    {α : Type}
    (question : Question)
    (held : α) :
    StateM (List Question) α :=
  fun asked => (held, asked ++ [question])

/-- The surroundings that hold what a world holds. -/
def surroundings (world : World) : Surroundings (StateM (List Question)) where
  environment name := answer (.environment name) (world.environment name)
  file path := answer (.file path) (world.file path)
  input := answer .input world.input?

/-- How a run with some arguments ends. -/
def outcome
    (world : World)
    (arguments : List String) :
    Outcome :=
  ((run world.surroundings arguments).run []).1

/-- What a run with some arguments asks for, in this order. -/
def questions
    (world : World)
    (arguments : List String) :
    List Question :=
  ((run world.surroundings arguments).run []).2

/--
Arguments that ask for a run of a command, and the settings of that run, in which
variables stand in for absent options.
-/
structure Accepts
    (world : World)
    (arguments : List String)
    (invocation : Invocation)
    (settings : Settings) :
    Prop where
  invokes : Request.ofArguments arguments = .ok (.invoke invocation)
  fills : ((invocation.settings.withVariables world.surroundings).run []).1 = .ok settings

/-- The questions for the variables. -/
def environmentQuestions : List Question :=
  [.environment "SQLGRAPH_CONFIG", .environment "SQLGRAPH_MAX_DEPTH",
    .environment "SQLGRAPH_MAX_LENGTH"]

/-- What a step of a run comes to behind some questions, and all questions behind it. -/
def follow
    {α : Type}
    (step : ExceptT Failure (StateM (List Question)) α)
    (asked : List Question) :
    Except Failure α × List Question :=
  step.run.run asked

/-- A step behind another one, which it follows unless that one fails. -/
theorem follow_bind
    {α β : Type}
    (first : ExceptT Failure (StateM (List Question)) α)
    (second : α → ExceptT Failure (StateM (List Question)) β)
    (asked : List Question) :
    follow (first >>= second) asked =
      match follow first asked with
      | (.ok value, later) => follow (second value) later
      | (.error cause, later) => (.error cause, later) := by
  unfold follow
  rw [ExceptT.run_bind, StateT.run_bind]
  cases StateT.run first.run asked with
  | mk result later =>
      cases result <;> rfl

/-- A run with accepted arguments runs the command, behind the questions for variables. -/
theorem run_of_accepts
    {world : World}
    {arguments : List String}
    {invocation : Invocation}
    {settings : Settings}
    (accepts : world.Accepts arguments invocation settings) :
    (run world.surroundings arguments).run [] =
      (follow ({ invocation with settings := settings }.run world.surroundings)
        environmentQuestions).map Outcome.ofResult id := by
  obtain ⟨invokes, fills⟩ := accepts
  have filled :
      (invocation.settings.withVariables world.surroundings).run [] =
        (.ok settings, environmentQuestions) :=
    Prod.ext fills rfl
  simp only [run, invokes, StateT.run_bind, filled]
  change StateT.run (_ >>= _) environmentQuestions = _
  rw [StateT.run_bind]
  cases ran : follow (Invocation.run { invocation with settings := settings } _)
      environmentQuestions with
  | mk result asked =>
      rw [follow] at ran
      rw [ran]
      cases result <;> rfl

variable {world : World}
variable {invocation : Invocation}
variable {command : Command}

/-! ## The limits a run starts from -/

theorem baseLimits_of_no_config
    (noConfig : invocation.settings.config? = none)
    (asked : List Question) :
    follow (invocation.baseLimits world.surroundings) asked =
      (.ok invocation.command.name.limits, asked) := by
  unfold Invocation.baseLimits
  rw [noConfig]
  rfl

theorem baseLimits_of_config
    (world : World)
    {path : String}
    (config : invocation.settings.config? = some path)
    (asked : List Question) :
    follow (invocation.baseLimits world.surroundings) asked =
      ((match world.file path with
        | none => .error (.unreadableConfig path)
        | some text => configLimits path text),
        asked ++ [.file path]) := by
  unfold Invocation.baseLimits
  rw [config]
  change follow (liftM (answer (.file path) (world.file path)) >>= _) asked = _
  rw [follow_bind]
  cases world.file path <;> rfl

/-! ## The text a command works on -/

theorem text_of_no_query
    (noQuery : command.name.takesQuery = false)
    (asked : List Question) :
    follow (command.text world.surroundings) asked = (.ok "", asked) := by
  unfold Command.text
  rw [noQuery]
  rfl

theorem text_of_argument
    (world : World)
    {text : String}
    (takesQuery : command.name.takesQuery = true)
    (argument : command.query? = some text)
    (asked : List Question) :
    follow (command.text world.surroundings) asked = (.ok text, asked) := by
  unfold Command.text
  rw [takesQuery, argument]
  rfl

theorem text_of_input
    (world : World)
    (takesQuery : command.name.takesQuery = true)
    (noArgument : command.query? = none)
    (asked : List Question) :
    follow (command.text world.surroundings) asked =
      ((match world.input? with
        | none => .error .unreadableInput
        | some text => .ok text),
        asked ++ [.input]) := by
  unfold Command.text
  rw [takesQuery, noArgument]
  change follow (liftM (answer .input world.input?) >>= _) asked = _
  rw [follow_bind]
  cases world.input? <;> rfl

/-! ## Runs of a command -/

theorem invoke_of_no_limits
    {cause : Failure}
    {asked later : List Question}
    (noLimits :
      follow (invocation.baseLimits world.surroundings) asked = (.error cause, later)) :
    follow (invocation.run world.surroundings) asked = (.error cause, later) := by
  unfold Invocation.run
  rw [follow_bind, noLimits]

theorem invoke_of_no_text
    {base : Limits}
    {cause : Failure}
    {asked later last : List Question}
    (limits : follow (invocation.baseLimits world.surroundings) asked = (.ok base, later))
    (noText :
      follow (invocation.command.text world.surroundings) later = (.error cause, last)) :
    follow (invocation.run world.surroundings) asked = (.error cause, last) := by
  unfold Invocation.run
  rw [follow_bind, limits]
  dsimp only
  rw [follow_bind, noText]

theorem invoke_of_text
    {base : Limits}
    {text : String}
    {asked later last : List Question}
    (limits : follow (invocation.baseLimits world.surroundings) asked = (.ok base, later))
    (found :
      follow (invocation.command.text world.surroundings) later = (.ok text, last)) :
    follow (invocation.run world.surroundings) asked =
      (invocation.command.output (invocation.settings.override base) text, last) := by
  unfold Invocation.run
  rw [follow_bind, limits]
  dsimp only
  rw [follow_bind, found]
  rfl

end World

end SelectCypher.CommandLine
