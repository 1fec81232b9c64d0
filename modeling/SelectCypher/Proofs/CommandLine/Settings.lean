import SelectCypher.Proofs.CommandLine.World

namespace SelectCypher.CommandLine

/-!
# Settings of a run

An option counts before its variable, and the variable only where the option is absent.
The limits of a run follow from its settings, from what its configuration says, if it
has one, and else from its command.
-/

namespace Settings

/-- The number that the value of a variable stands for, if it is set. -/
def variableNumber? (value? : Option String) : Option Nat :=
  value?.bind fun value => Text.signedWord? value.toList

variable {given next : Settings}
variable {setting : Setting}
variable {value : String}
variable {value? : Option String}

/-- What succeeds does so step by step. -/
theorem exists_of_bind_eq_ok
    {α β : Type}
    {first : Except UsageError α}
    {second : α → Except UsageError β}
    {result : β}
    (succeeds : (first >>= second) = .ok result) :
    ∃ found, first = .ok found ∧ second found = .ok result := by
  cases first with
  | error error =>
      cases succeeds
  | ok found =>
      exact ⟨found, rfl, succeeds⟩

/-- A variable that fills a setting is not set, not needed, or put in. -/
theorem fillFrom_eq_ok
    (filled : given.fillFrom setting value? = .ok next) :
    ((value? = none ∨ given.has setting = true) ∧ next = given) ∨
      given.has setting = false ∧ ∃ value, value? = some value ∧
        given.put setting value = .ok next := by
  unfold fillFrom at filled
  split at filled
  · split at filled
    · rename_i value present
      cases filled
      exact .inl ⟨.inr present, rfl⟩
    · rename_i value absent
      exact .inr ⟨by simpa using absent, value, rfl, filled⟩
  · cases filled
    exact .inl ⟨.inl rfl, rfl⟩

theorem variableNumber?_of_number
    {found : Nat}
    (read : number setting value = .ok found) :
    variableNumber? (some value) = some found := by
  unfold number at read
  split at read
  · rename_i isNumber
    cases read
    exact isNumber
  · cases read

theorem fillFrom_config
    (filled : given.fillFrom .config value? = .ok next) :
    next = { given with config? := given.config?.or value? } := by
  rcases fillFrom_eq_ok filled with ⟨unset | present, rfl⟩ | ⟨absent, value, rfl, puts⟩
  · rw [unset, Option.or_none]
  · obtain ⟨path, same⟩ := Option.isSome_iff_exists.mp present
    rw [same, Option.some_or, ← same]
  · rw [Option.not_isSome_iff_eq_none.mp (Bool.eq_false_iff.mp absent)]
    simp only [put] at puts
    split at puts
    · cases puts
    · cases puts
      rfl

theorem fillFrom_maxDepth
    (filled : given.fillFrom .maxDepth value? = .ok next) :
    next = { given with maxDepth? := given.maxDepth?.or (variableNumber? value?) } := by
  rcases fillFrom_eq_ok filled with ⟨unset | present, rfl⟩ | ⟨absent, value, rfl, puts⟩
  · rw [unset, variableNumber?, Option.bind_none, Option.or_none]
  · obtain ⟨depth, same⟩ := Option.isSome_iff_exists.mp present
    rw [same, Option.some_or, ← same]
  · obtain ⟨depth, isNumber, rest⟩ := exists_of_bind_eq_ok puts
    rw [Option.not_isSome_iff_eq_none.mp (Bool.eq_false_iff.mp absent),
      variableNumber?_of_number isNumber]
    cases rest
    rfl

theorem fillFrom_maxLength
    (filled : given.fillFrom .maxLength value? = .ok next) :
    next = { given with maxLength? := given.maxLength?.or (variableNumber? value?) } := by
  rcases fillFrom_eq_ok filled with ⟨unset | present, rfl⟩ | ⟨absent, value, rfl, puts⟩
  · rw [unset, variableNumber?, Option.bind_none, Option.or_none]
  · obtain ⟨length, same⟩ := Option.isSome_iff_exists.mp present
    rw [same, Option.some_or, ← same]
  · obtain ⟨length, isNumber, rest⟩ := exists_of_bind_eq_ok puts
    rw [Option.not_isSome_iff_eq_none.mp (Bool.eq_false_iff.mp absent),
      variableNumber?_of_number isNumber]
    cases rest
    rfl

theorem checked_eq_ok
    (checked : given.checked = .ok next) :
    next = given ∧ (given.noLengthLimit = true → given.maxLength? = none) := by
  unfold Settings.checked at checked
  split at checked
  · cases checked
  · rename_i compatible
    cases checked
    refine ⟨rfl, fun lifted => ?_⟩
    simpa [lifted] using compatible

end Settings

/-- What the settings of a run are, by the options given and the variables of a world. -/
structure World.Resolves
    (world : World)
    (given settings : Settings) :
    Prop where
  config : settings.config? = given.config?.or (world.environment "SQLGRAPH_CONFIG")
  maxDepth :
    settings.maxDepth? =
      given.maxDepth?.or
        (Settings.variableNumber? (world.environment "SQLGRAPH_MAX_DEPTH"))
  maxLength :
    settings.maxLength? =
      given.maxLength?.or
        (Settings.variableNumber? (world.environment "SQLGRAPH_MAX_LENGTH"))
  noLengthLimit : settings.noLengthLimit = given.noLengthLimit
  compatible : settings.noLengthLimit = true → settings.maxLength? = none

theorem World.Accepts.resolves
    {world : World}
    {arguments : List String}
    {invocation : Invocation}
    {settings : Settings}
    (accepts : world.Accepts arguments invocation settings) :
    world.Resolves invocation.settings settings := by
  have filled := accepts.fills
  change (invocation.settings.fillFrom .config _ >>= _) = _ at filled
  obtain ⟨behindConfig, first, filled⟩ := Settings.exists_of_bind_eq_ok filled
  obtain ⟨behindDepth, second, filled⟩ := Settings.exists_of_bind_eq_ok filled
  obtain ⟨behindLength, third, filled⟩ := Settings.exists_of_bind_eq_ok filled
  obtain ⟨rfl, compatible⟩ := Settings.checked_eq_ok filled
  have resolved := Settings.fillFrom_maxLength third
  rw [Settings.fillFrom_maxDepth second, Settings.fillFrom_config first] at resolved
  have config := congrArg Settings.config? resolved
  have maxDepth := congrArg Settings.maxDepth? resolved
  have maxLength := congrArg Settings.maxLength? resolved
  have noLengthLimit := congrArg Settings.noLengthLimit resolved
  exact ⟨config, maxDepth, maxLength, noLengthLimit, compatible⟩

end SelectCypher.CommandLine
