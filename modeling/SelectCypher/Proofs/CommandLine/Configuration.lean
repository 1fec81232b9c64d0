import SelectCypher.Proofs.CommandLine.Settings
import SelectCypher.Proofs.Json.Limits

namespace SelectCypher.CommandLine

/-!
# Limits of a run

A run that asks for a configuration takes from it what it gives, with the defaults for
what it leaves out; a run that asks for none takes the limits of its command.  Options
are put over either.  A configuration that cannot be used fails the run before it has
asked for a text.
-/

/-- The limits of a command under some settings and what a configuration says, if any. -/
def Settings.limits
    (settings : Settings)
    (command : CommandName)
    (known? : Option Limits.Known) :
    Limits where
  maxDepth := (settings.maxDepth?.or (known?.bind Limits.Known.maxDepth?)).getD 128
  maxLength? :=
    if settings.noLengthLimit then
      none
    else
      settings.maxLength?.or
        (match known? with
        | some known => known.maxLength?.join
        | none => if command = .translate then some 5000 else none)

/-- The configuration of a run, if one is asked for, and what it says. -/
inductive World.Configured (world : World) : Option String → Option Limits.Known → Prop
  | without :
      Configured world none none
  | read {path text : String} {known : Limits.Known} :
      world.file path = some text →
      Limits.Configures (Json.scan text.toList) known →
      Configured world (some path) (some known)

/-- The configuration a run asks for is of no use. -/
inductive World.Misconfigured (world : World) : Option String → Failure → Prop
  | unreadable {path : String} :
      world.file path = none →
      Misconfigured world (some path) (.unreadableConfig path)
  | invalid {path text : String} :
      world.file path = some text →
      (∀ known, ¬ Limits.Configures (Json.scan text.toList) known) →
      Misconfigured world (some path) (.invalidConfig path)

/-- The limits a run starts from are put under its options. -/
theorem Settings.override_eq_limits
    (settings : Settings)
    (command : CommandName)
    (known? : Option Limits.Known) :
    settings.override
        (match known? with
        | some known => known.complete
        | none => command.limits) =
      settings.limits command known? := by
  unfold override limits
  cases known? with
  | none =>
      cases settings.maxDepth? <;> cases settings.maxLength? <;> cases command <;> rfl
  | some known =>
      cases settings.maxDepth? <;> cases settings.maxLength? <;> rfl

variable {world : World}

/-- A configuration is found that says something, or it is of no use. -/
theorem World.configured_or_misconfigured
    (world : World)
    (config? : Option String) :
    (∃ known?, world.Configured config? known?) ∨
      ∃ cause, world.Misconfigured config? cause := by
  cases config? with
  | none =>
      exact .inl ⟨none, .without⟩
  | some path =>
      cases held : world.file path with
      | none =>
          exact .inr ⟨_, .unreadable held⟩
      | some text =>
          by_cases configures : ∃ known, Limits.Configures (Json.scan text.toList) known
          · obtain ⟨known, configures⟩ := configures
            exact .inl ⟨some known, .read held configures⟩
          · exact .inr ⟨_, .invalid held (not_exists.mp configures)⟩

/-- A configuration that gives limits is of use. -/
theorem World.Configured.not_misconfigured
    {config? : Option String}
    {known? : Option Limits.Known}
    {cause : Failure}
    (configured : world.Configured config? known?) :
    ¬ world.Misconfigured config? cause := by
  intro misconfigured
  cases configured with
  | without =>
      cases misconfigured
  | read held configures =>
      cases misconfigured with
      | unreadable unreadable =>
          rw [unreadable] at held
          cases held
      | invalid otherHeld configuresNothing =>
          rw [otherHeld] at held
          cases held
          exact configuresNothing _ configures

theorem configLimits_of_configures
    {path text : String}
    {known : Limits.Known}
    (configures : Limits.Configures (Json.scan text.toList) known) :
    configLimits path text = .ok known.complete := by
  unfold configLimits
  rw [Limits.decode_eq_ok_iff.mpr ⟨known, configures, rfl⟩]
  rfl

theorem configLimits_of_not_configures
    {path text : String}
    (configuresNothing : ∀ known, ¬ Limits.Configures (Json.scan text.toList) known) :
    configLimits path text = .error (.invalidConfig path) := by
  unfold configLimits
  cases decoded : Json.decode Limits.decoder text with
  | error error =>
      rfl
  | ok limits =>
      obtain ⟨known, configures, -⟩ := Limits.decode_eq_ok_iff.mp decoded
      exact absurd configures (configuresNothing known)

namespace World

variable {invocation : Invocation}
variable {known? : Option Limits.Known}
variable {cause : Failure}

/-- The limits are found without a question for the text. -/
theorem Configured.baseLimits
    (configured : world.Configured invocation.settings.config? known?) :
    ∃ base asked,
      follow (invocation.baseLimits world.surroundings) environmentQuestions =
          (.ok base, asked) ∧
        .input ∉ asked ∧
          invocation.settings.override base =
            invocation.settings.limits invocation.command.name known? := by
  have overridden :=
    invocation.settings.override_eq_limits invocation.command.name known?
  generalize config : invocation.settings.config? = config? at configured
  cases configured with
  | without =>
      exact ⟨_, _, baseLimits_of_no_config config _, by decide, overridden⟩
  | @read path text known held configures =>
      have found := baseLimits_of_config world config environmentQuestions
      simp only [held, configLimits_of_configures configures] at found
      exact ⟨_, _, found, by simp [environmentQuestions], overridden⟩

/-- A configuration of no use fails the run without a question for the text. -/
theorem Misconfigured.baseLimits
    (misconfigured : world.Misconfigured invocation.settings.config? cause) :
    ∃ asked,
      follow (invocation.baseLimits world.surroundings) environmentQuestions =
          (.error cause, asked) ∧
        .input ∉ asked := by
  generalize config : invocation.settings.config? = config? at misconfigured
  cases misconfigured with
  | @unreadable path unreadable =>
      have found := baseLimits_of_config world config environmentQuestions
      simp only [unreadable] at found
      exact ⟨_, found, by simp [environmentQuestions]⟩
  | @invalid path text held configuresNothing =>
      have found := baseLimits_of_config world config environmentQuestions
      simp only [held, configLimits_of_not_configures configuresNothing] at found
      exact ⟨_, found, by simp [environmentQuestions]⟩

end World

end SelectCypher.CommandLine
