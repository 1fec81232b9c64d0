import SelectCypher.Proofs.CommandLine.Configuration
import SelectCypher.Proofs.Query.Line

namespace SelectCypher.CommandLine

/-!
# A run succeeds as a whole or fails as a whole

A run first finds its limits, then its text, and then does what its command does to
the text under the limits.  The first of these to fail is how the run fails, and
then there is no output; a run that asks for a text has found its limits.
-/

variable {world : World}

/-! ## What commands do -/

/-- The text a command works on, which is asked for only if it is not among arguments. -/
structure World.Poses
    (world : World)
    (command : Command)
    (text : String) :
    Prop where
  takesQuery : command.name ≠ .examples
  found : command.query?.or world.input? = some text

/-- What a command has to show for a text under some limits. -/
inductive Command.Gives
    (command : Command)
    (limits : Limits)
    (text : String) :
    String → Prop
  | tokens {tokens : List Token} :
      command.name = .tokens →
      tokenize text = .ok tokens →
      Gives command limits text (String.join (tokens.map tokenLine))
  | parse {query : Query} :
      command.name = .parse →
      Query.ofText text limits = .ok query →
      Gives command limits text (queryJson command.switched query ++ "\n")
  | format {query : Query} :
      command.name = .format →
      Query.ofText text limits = .ok query →
      Gives command limits text (query.canonical ++ "\n")
  | translate {translation : Translation} :
      command.name = .translate →
      SelectCypher.translate text limits = .ok translation →
      Gives command limits text (translation.cypher ++ "\n")

/-- Why a command has nothing to show for a text under some limits. -/
inductive Command.Refuses
    (command : Command)
    (limits : Limits)
    (text : String) :
    Failure → Prop
  | tokens {error : LexicalError} :
      command.name = .tokens →
      tokenize text = .error error →
      Refuses command limits text (.lexical error)
  | parse {error : QueryError} :
      command.name = .parse →
      Query.ofText text limits = .error error →
      Refuses command limits text (.query error)
  | format {error : QueryError} :
      command.name = .format →
      Query.ofText text limits = .error error →
      Refuses command limits text (.query error)
  | translate {error : TranslationError} :
      command.name = .translate →
      SelectCypher.translate text limits = .error error →
      Refuses command limits text (.translation error)

section Output

variable {command : Command}
variable {limits : Limits}
variable {text output : String}
variable {cause : Failure}

/-- A command on a text has something to show for it, or not for a reason. -/
theorem Command.gives_or_refuses
    (takesQuery : command.name ≠ .examples)
    (limits : Limits)
    (text : String) :
    (∃ output, command.Gives limits text output) ∨
      ∃ cause, command.Refuses limits text cause := by
  cases name : command.name with
  | tokens =>
      cases result : tokenize text with
      | ok tokens =>
          exact .inl ⟨_, .tokens name result⟩
      | error error =>
          exact .inr ⟨_, .tokens name result⟩
  | parse =>
      cases result : Query.ofText text limits with
      | ok query =>
          exact .inl ⟨_, .parse name result⟩
      | error error =>
          exact .inr ⟨_, .parse name result⟩
  | format =>
      cases result : Query.ofText text limits with
      | ok query =>
          exact .inl ⟨_, .format name result⟩
      | error error =>
          exact .inr ⟨_, .format name result⟩
  | translate =>
      cases result : SelectCypher.translate text limits with
      | ok translation =>
          exact .inl ⟨_, .translate name result⟩
      | error error =>
          exact .inr ⟨_, .translate name result⟩
  | examples =>
      exact absurd name takesQuery

theorem Command.Gives.output_eq
    (gives : command.Gives limits text output) :
    command.output limits text = .ok output := by
  unfold Command.output
  cases gives with
  | tokens name result | parse name result | format name result
  | translate name result =>
      rw [name]
      simp only [result]
      rfl

theorem Command.Refuses.output_eq
    (refuses : command.Refuses limits text cause) :
    command.output limits text = .error cause := by
  unfold Command.output
  cases refuses with
  | tokens name result | parse name result | format name result
  | translate name result =>
      rw [name]
      simp only [result]
      rfl

theorem Command.output_eq_ok_iff
    (takesQuery : command.name ≠ .examples) :
    command.output limits text = .ok output ↔ command.Gives limits text output := by
  refine ⟨fun succeeds => ?_, Gives.output_eq⟩
  rcases gives_or_refuses takesQuery limits text with ⟨other, gives⟩ | ⟨cause, refuses⟩
  · rw [gives.output_eq] at succeeds
    cases succeeds
    exact gives
  · rw [refuses.output_eq] at succeeds
    cases succeeds

theorem Command.output_eq_error_iff
    (takesQuery : command.name ≠ .examples) :
    command.output limits text = .error cause ↔ command.Refuses limits text cause := by
  refine ⟨fun fails => ?_, Refuses.output_eq⟩
  rcases gives_or_refuses takesQuery limits text with ⟨output, gives⟩ | ⟨other, refuses⟩
  · rw [gives.output_eq] at fails
    cases fails
  · rw [refuses.output_eq] at fails
    cases fails
    exact refuses

end Output

/-! ## What runs come to -/

theorem CommandName.takesQuery_eq_true_iff
    {name : CommandName} :
    name.takesQuery = true ↔ name ≠ .examples := by
  cases name <;> simp [takesQuery]

namespace World

variable {known? : Option Limits.Known}
variable {text : String}

/-- A run with limits and a text does what its command does to it. -/
theorem follow_of_text
    (invocation : Invocation)
    (poses : world.Poses invocation.command text)
    (configured : world.Configured invocation.settings.config? known?) :
    ∃ asked,
      follow (invocation.run world.surroundings) environmentQuestions =
          (invocation.command.output
            (invocation.settings.limits invocation.command.name known?) text, asked) ∧
        (.input ∈ asked ↔ invocation.command.query? = none) := by
  obtain ⟨base, asked, limits, notAsked, overridden⟩ := configured.baseLimits
  have takesQuery := CommandName.takesQuery_eq_true_iff.mpr poses.takesQuery
  have found := poses.found
  cases argument : invocation.command.query? with
  | some given =>
      rw [argument] at found
      cases found
      have posed := text_of_argument world takesQuery argument asked
      refine ⟨asked, ?_, by simpa using notAsked⟩
      rw [invoke_of_text limits posed, overridden]
  | none =>
      rw [argument, Option.none_or] at found
      have posed := text_of_input world takesQuery argument asked
      simp only [found] at posed
      refine ⟨asked ++ [.input], ?_, by simp⟩
      rw [invoke_of_text limits posed, overridden]

theorem follow_of_unreadable_input
    (invocation : Invocation)
    (configured : world.Configured invocation.settings.config? known?)
    (takesQuery : invocation.command.name ≠ .examples)
    (noArgument : invocation.command.query? = none)
    (unreadable : world.input? = none) :
    ∃ asked,
      follow (invocation.run world.surroundings) environmentQuestions =
          (.error .unreadableInput, asked) ∧
        .input ∈ asked := by
  obtain ⟨base, asked, limits, -, -⟩ := configured.baseLimits
  have posed :=
    text_of_input world
      (CommandName.takesQuery_eq_true_iff.mpr takesQuery) noArgument asked
  simp only [unreadable] at posed
  exact ⟨_, invoke_of_no_text limits posed, by simp⟩

theorem follow_of_examples
    (invocation : Invocation)
    (configured : world.Configured invocation.settings.config? known?)
    (showsExamples : invocation.command.name = .examples) :
    ∃ asked,
      follow (invocation.run world.surroundings) environmentQuestions =
          (.ok examplesText, asked) ∧
        .input ∉ asked := by
  obtain ⟨base, asked, limits, notAsked, -⟩ := configured.baseLimits
  have noQuery : invocation.command.name.takesQuery = false := by
    rw [showsExamples]
    rfl
  have output :
      invocation.command.output (invocation.settings.override base) "" =
        .ok examplesText := by
    unfold Command.output
    rw [showsExamples]
  refine ⟨asked, ?_, notAsked⟩
  rw [invoke_of_text limits (text_of_no_query noQuery asked), output]

theorem follow_of_misconfigured
    (invocation : Invocation)
    {cause : Failure}
    (misconfigured : world.Misconfigured invocation.settings.config? cause) :
    ∃ asked,
      follow (invocation.run world.surroundings) environmentQuestions =
          (.error cause, asked) ∧
        .input ∉ asked := by
  obtain ⟨asked, noLimits, notAsked⟩ := misconfigured.baseLimits
  exact ⟨asked, invoke_of_no_limits noLimits, notAsked⟩

end World

/-! ## The whole run -/

namespace Outcome

theorem ofResult_eq_success_iff
    {result : Except Failure String}
    {output : String} :
    ofResult result = .success output ↔ result = .ok output := by
  cases result <;> simp [ofResult]

theorem ofResult_eq_failure_iff
    {result : Except Failure String}
    {cause : Failure} :
    ofResult result = .failure cause ↔ result = .error cause := by
  cases result <;> simp [ofResult]

theorem exitCode_eq_zero_and_output_iff
    {outcome : Outcome}
    {output : String} :
    outcome.exitCode = 0 ∧ outcome.output = output ↔ outcome = .success output := by
  cases outcome <;> simp [exitCode, Outcome.output]

theorem exitCode_ofResult (result : Except Failure String) :
    (ofResult result).exitCode = 0 ∨
      (ofResult result).exitCode = 1 ∧ (ofResult result).output = "" := by
  cases result <;> simp [ofResult, exitCode, Outcome.output]

end Outcome

/-- A run of the command for canonical text, on a text under some limits. -/
inductive World.Formats
    (world : World)
    (arguments : List String) :
    Limits → String → Prop
  | intro
      {invocation : Invocation}
      {settings : Settings}
      {known? : Option Limits.Known}
      {text : String} :
      world.Accepts arguments invocation settings →
      invocation.command.name = .format →
      world.Configured settings.config? known? →
      world.Poses invocation.command text →
      Formats world arguments (settings.limits .format known?) text

/-- A run that does what the library does under the resolved options, or nothing. -/
structure World.AllOrNothing
    (world : World)
    (arguments : List String)
    (invocation : Invocation)
    (settings : Settings) :
    Prop where
  resolves : world.Resolves invocation.settings settings
  configured :
    (∃ known?, world.Configured settings.config? known?) ∨
      ∃ cause, world.Misconfigured settings.config? cause
  /-- Any command fails without a configuration that is asked for. -/
  misconfigured :
    ∀ cause,
      world.Misconfigured settings.config? cause →
      world.outcome arguments = .failure cause
  /-- The text is asked for last, and only if it has to be. -/
  asksInput :
    .input ∈ world.questions arguments ↔
      (∃ known?, world.Configured settings.config? known?) ∧
        invocation.command.name ≠ .examples ∧ invocation.command.query? = none
  unreadable :
    ∀ known?,
      world.Configured settings.config? known? →
      invocation.command.name ≠ .examples →
      invocation.command.query? = none →
      world.input? = none →
      world.outcome arguments = .failure .unreadableInput
  /-- The exit code is 0 exactly if the library succeeds, whose result is the output. -/
  succeeds :
    ∀ known? text output,
      world.Configured settings.config? known? →
      world.Poses invocation.command text →
      ((world.outcome arguments).exitCode = 0 ∧
          (world.outcome arguments).output = output ↔
        invocation.command.Gives
          (settings.limits invocation.command.name known?) text output)
  fails :
    ∀ known? text cause,
      world.Configured settings.config? known? →
      world.Poses invocation.command text →
      (world.outcome arguments = .failure cause ↔
        invocation.command.Refuses
          (settings.limits invocation.command.name known?) text cause)
  examples :
    ∀ known?,
      world.Configured settings.config? known? →
      invocation.command.name = .examples →
      world.outcome arguments = .success examplesText
  /-- A run that fails has the exit code 1 and no output. -/
  silent :
    (world.outcome arguments).exitCode = 0 ∨
      (world.outcome arguments).exitCode = 1 ∧ (world.outcome arguments).output = ""
  /-- Canonical output is its own canonical output, if it is not too long. -/
  again :
    ∀ limits text output,
      world.Formats arguments limits text →
      world.outcome arguments = .success output →
      (∀ limit ∈ limits.maxLength?, output.toList.length ≤ limit) →
      ∀ (other : World) otherArguments,
        other.Formats otherArguments limits output →
        other.outcome otherArguments = .success output

namespace World

variable {arguments : List String}
variable {invocation : Invocation}
variable {settings : Settings}

theorem Accepts.outcome_eq
    {result : Except Failure String}
    {asked : List Question}
    (accepts : world.Accepts arguments invocation settings)
    (ran :
      follow ({ invocation with settings := settings }.run world.surroundings)
          environmentQuestions =
        (result, asked)) :
    world.outcome arguments = .ofResult result ∧
      world.questions arguments = asked := by
  have whole := run_of_accepts accepts
  rw [ran] at whole
  exact ⟨congrArg Prod.fst whole, congrArg Prod.snd whole⟩

theorem Poses.outcome_eq
    {known? : Option Limits.Known}
    {text : String}
    (poses : world.Poses invocation.command text)
    (accepts : world.Accepts arguments invocation settings)
    (configured : world.Configured settings.config? known?) :
    world.outcome arguments =
        .ofResult
          (invocation.command.output
            (settings.limits invocation.command.name known?) text) ∧
      (.input ∈ world.questions arguments ↔ invocation.command.query? = none) := by
  obtain ⟨asked, ran, asks⟩ :=
    follow_of_text { invocation with settings := settings } poses configured
  obtain ⟨ends, questions⟩ := accepts.outcome_eq ran
  rw [questions]
  exact ⟨ends, asks⟩

/-- The canonical text of a query that is read is put out on a line. -/
theorem Formats.outcome_eq_success_iff
    {limits : Limits}
    {text output : String}
    (formats : world.Formats arguments limits text) :
    world.outcome arguments = .success output ↔
      ∃ query,
        Query.ofText text limits = .ok query ∧ output = query.canonical ++ "\n" := by
  obtain @⟨invocation, settings, known?, text, accepts, name, configured, poses⟩ :=
    formats
  have ends := (poses.outcome_eq accepts configured).1
  rw [name] at ends
  rw [ends, Outcome.ofResult_eq_success_iff, Command.output_eq_ok_iff poses.takesQuery]
  constructor
  · intro gives
    cases gives with
    | format _ read =>
        exact ⟨_, read, rfl⟩
    | tokens other | parse other | translate other =>
        rw [name] at other
        cases other
  · rintro ⟨query, read, rfl⟩
    exact .format name read

/-- The text is asked for last, and only where it has to be. -/
theorem Accepts.input_mem_questions_iff
    (accepts : world.Accepts arguments invocation settings) :
    .input ∈ world.questions arguments ↔
      (∃ known?, world.Configured settings.config? known?) ∧
        invocation.command.name ≠ .examples ∧ invocation.command.query? = none := by
  let resolved : Invocation := { invocation with settings := settings }
  rcases world.configured_or_misconfigured settings.config? with
    ⟨known?, configured⟩ | ⟨cause, misconfigured⟩
  · have found : ∃ known?, world.Configured settings.config? known? :=
      ⟨known?, configured⟩
    by_cases takesQuery : invocation.command.name = .examples
    · obtain ⟨asked, ran, notAsked⟩ :=
        follow_of_examples resolved configured takesQuery
      rw [(accepts.outcome_eq ran).2]
      simp [takesQuery, notAsked]
    · rw [and_iff_right found, and_iff_right takesQuery]
      cases posed : invocation.command.query?.or world.input? with
      | some text =>
          have poses : world.Poses invocation.command text := ⟨takesQuery, posed⟩
          exact (poses.outcome_eq accepts configured).2
      | none =>
          obtain ⟨noArgument, noInput⟩ := Option.or_eq_none_iff.mp posed
          obtain ⟨asked, ran, isAsked⟩ :=
            follow_of_unreadable_input resolved configured takesQuery noArgument noInput
          rw [(accepts.outcome_eq ran).2]
          exact ⟨fun _ => noArgument, fun _ => isAsked⟩
  · obtain ⟨asked, ran, notAsked⟩ :=
      follow_of_misconfigured resolved misconfigured
    rw [(accepts.outcome_eq ran).2]
    refine ⟨fun isAsked => absurd isAsked notAsked, ?_⟩
    rintro ⟨⟨known?, configured⟩, -⟩
    exact absurd misconfigured configured.not_misconfigured

/--
Whatever the arguments, the variables, the configuration and the text: a run that is
accepted comes to what the library comes to under the resolved options, and either that
is all its output or there is none.
-/
theorem allOrNothing_of_accepts
    (accepts : world.Accepts arguments invocation settings) :
    world.AllOrNothing arguments invocation settings where
  resolves := accepts.resolves
  configured := world.configured_or_misconfigured settings.config?
  misconfigured := by
    intro cause misconfigured
    obtain ⟨asked, ran, -⟩ :=
      follow_of_misconfigured { invocation with settings := settings } misconfigured
    exact (accepts.outcome_eq ran).1
  asksInput := accepts.input_mem_questions_iff
  unreadable := by
    intro known? configured takesQuery noArgument noInput
    obtain ⟨asked, ran, -⟩ :=
      follow_of_unreadable_input { invocation with settings := settings } configured
        takesQuery noArgument noInput
    exact (accepts.outcome_eq ran).1
  succeeds := by
    intro known? text output configured poses
    rw [Outcome.exitCode_eq_zero_and_output_iff, (poses.outcome_eq accepts configured).1,
      Outcome.ofResult_eq_success_iff]
    exact Command.output_eq_ok_iff poses.takesQuery
  fails := by
    intro known? text cause configured poses
    rw [(poses.outcome_eq accepts configured).1, Outcome.ofResult_eq_failure_iff]
    exact Command.output_eq_error_iff poses.takesQuery
  examples := by
    intro known? configured showsExamples
    obtain ⟨asked, ran, -⟩ :=
      follow_of_examples { invocation with settings := settings } configured
        showsExamples
    exact (accepts.outcome_eq ran).1
  silent := by
    rw [(accepts.outcome_eq rfl).1]
    exact Outcome.exitCode_ofResult _
  again := by
    intro limits text output formats succeeds fits other otherArguments formatsAgain
    obtain ⟨query, read, rfl⟩ := formats.outcome_eq_success_iff.mp succeeds
    exact formatsAgain.outcome_eq_success_iff.mpr
      ⟨query, Query.ofText_line read fits, rfl⟩

/-- A configuration that lowers the one limit, and a variable that lowers the other. -/
theorem allOrNothing_of_accepts_configured :
    let world : World :=
      { environment := fun name => if name = "SQLGRAPH_MAX_DEPTH" then some "+1" else none
        file := fun path =>
          if path = "limits.json" then
            some "\x7b \"max_depth\": 0, \"max_query_length\": 64 \x7d"
          else
            none
        input? := some "select a from t where (b = 1)" }
    let arguments := ["-c", "limits.json", "format"]
    let settings : Settings := { config? := some "limits.json" }
    let invocation : Invocation :=
      { settings := settings, command := { name := .format } }
    world.Accepts arguments invocation { settings with maxDepth? := some 1 } ∧
      world.outcome arguments = .success "SELECT a FROM t WHERE b = 1\n" ∧
      world.AllOrNothing arguments invocation { settings with maxDepth? := some 1 } := by
  intro world arguments settings invocation
  have accepts :
      world.Accepts arguments invocation { settings with maxDepth? := some 1 } := by
    constructor
    · decide +kernel
    · decide +kernel
  exact ⟨accepts, by decide +kernel, allOrNothing_of_accepts accepts⟩

end World

end SelectCypher.CommandLine
