import DataGate.Proofs.SharedInstance

namespace DataGate

open Text

/-- What a load in this world reads settings off: the environment with the file merged into it. -/
def World.Sees (world : World) (effective : Environment) : Prop :=
  world.loaded = (effective, none)

/-- Every environment is seen where the file is empty. -/
theorem World.sees_of_empty {world : World} (loader : world.loader = Dotenv.loader)
    (empty : world.dotenv = "") : world.Sees world.environment := by
  have silent : Dotenv.ofFile "" = [] := by decide +kernel
  have undefined : Dotenv.definitions world.environment "" = [] := by
    rw [Dotenv.definitions, silent, List.foldl_nil, ite_self]
  rw [Sees, loaded, loader, empty]
  change Dotenv.load world.environment "" = _
  rw [Dotenv.load, undefined]
  rfl

namespace Settings

variable {world : World} {effective changed : Environment} {text decorated : String}
  {lowered : List Char}

namespace Switch

variable {switch : Switch}

theorem ofText?_of_decorates (decorates : Decorates text decorated) :
    ofText? decorated = ofText? text := by
  rw [ofText?, ofText?, decorates.lower_trim_eq]

theorem value_of_decorated
    (same : Option.Rel Decorates (effective.get? switch.source) (changed.get? switch.source)) :
    switch.value effective = switch.value changed := by
  generalize plain : effective.get? switch.source = before,
    altered : changed.get? switch.source = after at same
  cases same with
  | none => rw [value_of_unset plain, value_of_unset altered]
  | some decorates =>
      rw [value_of_set plain, value_of_set altered, ofText?_of_decorates decorates]

theorem value_congr (same : effective.get? switch.source = changed.get? switch.source) :
    switch.value effective = switch.value changed := by
  rw [value, value, given?, given?, same]

end Switch

theorem levelOf_congr (same : effective.get? levelVariable = changed.get? levelVariable) :
    levelOf effective = levelOf changed := by
  rw [levelOf, levelOf, same]

theorem levelOf_of_decorated
    (same : Option.Rel Decorates (effective.get? levelVariable) (changed.get? levelVariable)) :
    levelOf effective = levelOf changed := by
  rw [levelOf, levelOf]
  generalize effective.get? levelVariable = before, changed.get? levelVariable = after at same ⊢
  cases same with
  | none => rfl
  | some decorates => exact congrArg String.ofList decorates.upper_trim_eq.symm

/-- The variables that settings are read off, in the order in which they are read. -/
def sources : List String :=
  [Switch.displayUtc.source, Switch.metricsEnabled.source, Switch.auditEnabled.source,
    levelVariable]

/-- Each of the settings' variables has in the other environment the same text, perhaps with blanks
around it and with some of its ASCII letters in the other case. -/
def Decorated (effective changed : Environment) : Prop :=
  ∀ name ∈ sources, Option.Rel Decorates (effective.get? name) (changed.get? name)

theorem ofEnvironment_of_decorated (same : Decorated effective changed) :
    ofEnvironment effective = ofEnvironment changed := by
  simp only [Decorated, sources, List.forall_mem_cons] at same
  obtain ⟨displayUtc, metricsEnabled, auditEnabled, level, _⟩ := same
  rw [ofEnvironment, ofEnvironment, Switch.value_of_decorated displayUtc,
    Switch.value_of_decorated metricsEnabled, Switch.value_of_decorated auditEnabled,
    levelOf_of_decorated level]

/-- Settings that agree wherever the variable of the one setting has the same value in both
environments, whatever the other variables are. -/
structure AgreeAlone (effective changed : Environment) (first second : Settings) : Prop where
  displayUtc : effective.get? Switch.displayUtc.source = changed.get? Switch.displayUtc.source →
    first.displayUtc = second.displayUtc
  metricsEnabled :
    effective.get? Switch.metricsEnabled.source = changed.get? Switch.metricsEnabled.source →
      first.metricsEnabled = second.metricsEnabled
  auditEnabled :
    effective.get? Switch.auditEnabled.source = changed.get? Switch.auditEnabled.source →
      first.auditEnabled = second.auditEnabled
  logLevel : effective.get? levelVariable = changed.get? levelVariable →
    first.logLevel = second.logLevel

theorem agreeAlone (effective changed : Environment) :
    AgreeAlone effective changed (ofEnvironment effective) (ofEnvironment changed) where
  displayUtc := Switch.value_congr
  metricsEnabled := Switch.value_congr
  auditEnabled := Switch.value_congr
  logLevel := levelOf_congr

theorem pending?_of_sees (sees : world.Sees effective) :
    pending? world = some (ofEnvironment effective) := by
  rw [pending?, sees]

theorem load_settings_unchecked (sees : world.Sees effective) :
    (load false world).result.map Instance.settings = .ok (ofEnvironment effective) := by
  rw [load_result_of_pending false (pending?_of_sees sees) nofun]
  rfl

theorem load_settings_checked (sees : world.Sees effective) :
    (load true world).result.map Instance.settings =
      if (ofEnvironment effective).isValid then .ok (ofEnvironment effective)
      else .error (.settings (ofEnvironment effective).invalid) := by
  split
  · next valid =>
      rw [load_result_of_pending true (pending?_of_sees sees) fun _ => valid]
      rfl
  · next invalid =>
      rw [load_result_of_invalid (pending?_of_sees sees) (Bool.eq_false_iff.mpr invalid)]
      rfl

/-- The warnings of a load are those about the switches. -/
theorem load_warnings (sees : world.Sees effective) (checked : Bool) :
    (load checked world).issued.filter (·.entry.level == .warning) =
      (warnings effective).map world.issue := by
  have warned : (warnings effective).filter (·.level == .warning) = warnings effective :=
    List.filter_eq_self.mpr fun entry member => beq_iff_eq.mpr (level_of_mem_warnings member)
  have told (rest : List Log.Entry) (others : rest.filter (·.level == .warning) = []) :
      ((warnings effective ++ rest).map world.issue).filter (·.entry.level == .warning) =
        (warnings effective).map world.issue := by
    rw [filter_level_issue, List.filter_append, warned, others, List.append_nil]
  cases checked with
  | false =>
      rw [load_unchecked sees]
      exact told _ rfl
  | true =>
      cases valid : (ofEnvironment effective).isValid with
      | false =>
          rw [load_of_invalid sees valid]
          exact told _ rfl
      | true =>
          obtain ⟨level, named, _⟩ := exists_level_of_isValid valid
          rw [load_of_valid sees valid named]
          exact told _ rfl

end Settings

end DataGate
