import DataGate.Proofs.LogLevel

namespace DataGate

namespace Settings

variable {world : World} {checked : Bool} {loaded : Instance} {fault : Fault}
  {outcome : Outcome Instance}

/-- The text that a load makes out to be the level: that of the environment, also if it is empty, or
else that of the file, or else the default one. Blanks around it do not count, nor does its case. -/
def effectiveLevel (world : World) : String :=
  let text := ((world.environment.get? "DATA_EVAL_LOG_LEVEL").or
    (world.defined? "DATA_EVAL_LOG_LEVEL")).getD "INFO"
  String.ofList (Text.upper (Text.trim text.toList))

theorem logLevel_loaded (merged : world.loaded.2 = none) :
    (ofEnvironment world.loaded.1).logLevel = effectiveLevel world := by
  have level : world.loaded.1.get? levelVariable = _ := Loader.get?_load merged levelVariable
  change levelOf world.loaded.1 = _
  rw [levelOf, level]
  rfl

theorem isValid_loaded_iff (merged : world.loaded.2 = none) :
    (ofEnvironment world.loaded.1).isValid = true ↔ effectiveLevel world ∈ validLevels := by
  rw [isValid_iff, logLevel_loaded merged]

/-- The warnings of a load are no errors. -/
theorem filter_error_warnings (environment : Environment) :
    (warnings environment).filter (·.level == .error) = [] := by
  apply List.filter_eq_nil_iff.mpr
  intro entry member
  rw [level_of_mem_warnings member]
  exact Bool.false_ne_true

theorem load_unchecked_of_merged (merged : world.loaded.2 = none) :
    (∃ loaded, (load false world).result = .ok loaded) ∧
      (load false world).world.level = world.level := by
  rw [load_unchecked (Prod.ext rfl merged)]
  exact ⟨⟨_, rfl⟩, rfl⟩

/-- What is left of a load that is refused its level. -/
structure RefusesLevel (world : World) (outcome : Outcome Instance) (fault : Fault) : Prop where
  error : ∃ error, fault = .settings error ∧ error.code = "DEV-040"
  noted : (outcome.issued.filter (·.entry.level == .error)).length = 1
  level : outcome.world.level = world.level
  shared : outcome.world.shared = world.shared

theorem refusesLevel_of_invalid (merged : world.loaded.2 = none)
    (invalid : effectiveLevel world ∉ validLevels) :
    ∃ fault, (load true world).result = .error fault ∧
      RefusesLevel world (load true world) fault := by
  have refused := load_of_invalid (Prod.ext rfl merged)
    (Bool.eq_false_iff.mpr (mt (isValid_loaded_iff merged).mp invalid))
  rw [refused]
  refine ⟨_, rfl, ⟨_, rfl, rfl⟩, ?_, rfl, rfl⟩
  rw [filter_level_issue, List.length_map, List.filter_append, filter_error_warnings]
  rfl

theorem accepts_of_valid (merged : world.loaded.2 = none)
    (valid : effectiveLevel world ∈ validLevels) :
    ∃ loaded, (load true world).result = .ok loaded ∧
      loaded.settings.logLevel = effectiveLevel world ∧
      (load true world).world.level.name = effectiveLevel world := by
  have accepted := (isValid_loaded_iff merged).mpr valid
  obtain ⟨level, found, named⟩ := exists_level_of_isValid accepted
  rw [load_of_valid (Prod.ext rfl merged) accepted found]
  exact ⟨_, rfl, logLevel_loaded merged, named.trans (logLevel_loaded merged)⟩

/-- If loading the file is refused no variable, then a load that checks succeeds exactly if the
effective level is valid, and then gives it to the log. Otherwise it fails over that alone, notes it
once, and leaves the level and the shared instance as they were. The environment takes up the file
either way. A load that does not check never fails and leaves the level alone. -/
theorem checked_load_decided_by_level (world : World) (merged : world.loaded.2 = none) :
    let level := effectiveLevel world
    let outcome := load true world
    ((∃ loaded, outcome.result = .ok loaded) ↔ level ∈ validLevels) ∧
      (∀ loaded, outcome.result = .ok loaded →
        loaded.settings.logLevel = level ∧ outcome.world.level.name = level) ∧
      (∀ fault, outcome.result = .error fault → RefusesLevel world outcome fault) ∧
      (∀ checked name, (load checked world).world.environment.get? name =
        (world.environment.get? name).or (world.defined? name)) ∧
      (∃ loaded, (load false world).result = .ok loaded) ∧
      (load false world).world.level = world.level := by
  intro level outcome
  have environment (checked : Bool) (name : String) :
      (load checked world).world.environment.get? name =
        (world.environment.get? name).or (world.defined? name) := by
    rw [(loadsTo_load checked world).environment_eq]
    exact Loader.get?_load merged name
  have unchecked := load_unchecked_of_merged merged
  by_cases valid : effectiveLevel world ∈ validLevels
  · obtain ⟨loaded, done, named, applied⟩ := accepts_of_valid merged valid
    refine ⟨iff_of_true ⟨loaded, done⟩ valid, ?_, ?_, environment, unchecked⟩
    · intro other again
      cases done.symm.trans again
      exact ⟨named, applied⟩
    · intro fault failed
      cases done.symm.trans failed
  · obtain ⟨fault, failed, refuses⟩ := refusesLevel_of_invalid merged valid
    have unloaded : ¬ ∃ loaded, outcome.result = .ok loaded := by
      intro loads
      obtain ⟨loaded, done⟩ := loads
      cases failed.symm.trans done
    refine ⟨iff_of_false unloaded valid, ?_, ?_, environment, unchecked⟩
    · intro loaded done
      exact absurd ⟨loaded, done⟩ unloaded
    · intro other again
      cases failed.symm.trans again
      exact refuses

/-- An empty level in the environment keeps the one of the file out and is refused; one in small
letters between blanks is not. What else the file says is taken up in both cases. -/
theorem checked_load_decided_by_level_empty :
    let file := "DATA_EVAL_LOG_LEVEL=INFO\nDATA_EVAL_DISPLAY_UTC=maybe\n"
    let world (level : String) : World :=
      { loader := Dotenv.loader, environment := .ofList [("DATA_EVAL_LOG_LEVEL", level)]
        dotenv := file, level := .error, wall := .ofReadings (.ok 0) [] }
    let refused := load true (world "")
    let accepted := load true (world "\u00a0warning ")
    (world "").loaded.2 = none ∧ (world "\u00a0warning ").loaded.2 = none ∧
      (∃ fault, refused.result = .error fault ∧ RefusesLevel (world "") refused fault) ∧
      refused.world.environment.get? "DATA_EVAL_DISPLAY_UTC" = some "maybe" ∧
      (∃ loaded, accepted.result = .ok loaded ∧ loaded.settings.logLevel = "WARNING") ∧
      accepted.world.level.name = "WARNING" := by
  intro file world refused accepted
  have emptyMerged : (world "").loaded.2 = none := by decide +kernel
  have blankMerged : (world "\u00a0warning ").loaded.2 = none := by decide +kernel
  obtain ⟨emptyLoads, _, refuses, environment, _⟩ :=
    checked_load_decided_by_level (world "") emptyMerged
  obtain ⟨blankLoads, applies, _⟩ :=
    checked_load_decided_by_level (world "\u00a0warning ") blankMerged
  have invalid : effectiveLevel (world "") ∉ validLevels := by decide +kernel
  have valid : effectiveLevel (world "\u00a0warning ") = "WARNING" := by decide +kernel
  obtain ⟨loaded, done⟩ := blankLoads.mpr (by rw [valid]; decide)
  obtain ⟨named, applied⟩ := applies loaded done
  have taken : refused.world.environment.get? "DATA_EVAL_DISPLAY_UTC" = some "maybe" := by
    rw [environment true]
    decide +kernel
  refine ⟨emptyMerged, blankMerged, ?_, taken, ⟨loaded, done, named.trans valid⟩,
    applied.trans valid⟩
  cases result : refused.result with
  | ok loaded => exact absurd (emptyLoads.mp ⟨loaded, result⟩) invalid
  | error fault => exact ⟨fault, rfl, refuses fault result⟩

end Settings

end DataGate
