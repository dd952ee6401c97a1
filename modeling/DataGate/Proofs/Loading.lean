import DataGate.Loading
import DataGate.Proofs.Effects

/-!
What a load does in full: its result, the world after it and the entries it writes, in each of the
cases that the file, the check and the settings make. A request for the shared instance is a load or
nothing at all.
-/

namespace DataGate.Settings

open Effect

variable {γ : Type} {view : World → γ}
variable {world : World} {environment : Environment} {checked : Bool} {level : Log.Level}

theorem mergeDotenv_of_refused {reason : VariableError}
    (refused : world.loaded = (environment, some reason)) :
    mergeDotenv world =
      { result := .error (.environment reason), world := { world with environment } } := by
  simp only [mergeDotenv, read_bind, refused, modify_bind]
  rfl

theorem mergeDotenv_of_merged
    (merged : world.loaded = (environment, none)) :
    mergeDotenv world = { result := .ok (), world := { world with environment } } := by
  simp only [mergeDotenv, read_bind, merged, modify_bind]
  rfl

theorem load_of_refused {reason : VariableError}
    (refused : world.loaded = (environment, some reason)) :
    load checked world =
      { result := .error (.environment reason), world := { world with environment } } := by
  have failed : (mergeDotenv world).result = .error (.environment reason) := by
    rw [mergeDotenv_of_refused refused]
  rw [load, bind_apply_error failed, mergeDotenv_of_refused refused]

theorem load_unchecked
    (merged : world.loaded = (environment, none)) :
    load false world =
      { result := .ok { serial := world.created, settings := ofEnvironment environment }
        world := { world with environment, created := world.created + 1 }
        issued := (warnings environment ++ [(ofEnvironment environment).loadedEntry]).map
          world.issue } := by
  have done : (mergeDotenv world).result = .ok () := by
    rw [mergeDotenv_of_merged merged]
  rw [load, bind_apply_ok done, mergeDotenv_of_merged merged]
  simp only [read_bind, issueAll_bind, issue_bind, List.map_append]
  rfl

theorem load_of_invalid
    (merged : world.loaded = (environment, none))
    (invalid : (ofEnvironment environment).isValid = false) :
    load true world =
      { result := .error (.settings (ofEnvironment environment).invalid)
        world := { world with environment }
        issued := (warnings environment ++ [(ofEnvironment environment).loadedEntry,
          (ofEnvironment environment).invalidEntry]).map world.issue } := by
  have done : (mergeDotenv world).result = .ok () := by
    rw [mergeDotenv_of_merged merged]
  rw [load, bind_apply_ok done, mergeDotenv_of_merged merged]
  simp only [read_bind, issueAll_bind, issue_bind, if_true, validate, invalid, Bool.false_eq_true,
    if_false, bind_assoc, fail_bind, List.map_append]
  rfl

/-- Checking settings writes to the log alone. -/
theorem keeps_validate (settings : Settings) : Keeps view settings.validate := by
  unfold validate
  split
  · exact keeps_issue settings.validatedEntry
  · exact (keeps_issue settings.invalidEntry).bind fun _ => keeps_fail _

theorem keeps_applyLevel (blind : ∀ world level, view { world with level } = view world)
    (settings : Settings) : Keeps view settings.applyLevel := by
  unfold applyLevel
  split
  · rename_i level _
    exact keeps_modify fun world => blind world level
  · exact keeps_fail _

theorem keeps_instantiate (blind : ∀ world created, view { world with created } = view world)
    (settings : Settings) : Keeps view settings.instantiate :=
  fun world => blind world (world.created + 1)

theorem keeps_assignVariable
    (blind : ∀ world environment, view { world with environment } = view world)
    (name value : String) : Keeps view (assignVariable name value) :=
  keeps_read.bind fun _ => (keeps_ofExcept _ _).bind fun environment =>
    keeps_modify fun world => blind world environment

theorem isValid_iff {settings : Settings} :
    settings.isValid = true ↔ settings.logLevel ∈ validLevels :=
  List.contains_iff_mem

/-- Every valid level is a level of the log under that very name. -/
theorem exists_level_of_isValid {settings : Settings} (valid : settings.isValid = true) :
    ∃ level, Log.Level.ofName? settings.logLevel = some level ∧
      level.name = settings.logLevel := by
  have member : settings.logLevel ∈ validLevels := isValid_iff.mp valid
  simp only [validLevels, List.mem_cons, List.not_mem_nil, or_false] at member
  rcases member with same | same | same | same | same <;> rw [same]
  · exact ⟨.debug, rfl, rfl⟩
  · exact ⟨.info, rfl, rfl⟩
  · exact ⟨.warning, rfl, rfl⟩
  · exact ⟨.error, rfl, rfl⟩
  · exact ⟨.critical, rfl, rfl⟩

theorem load_of_valid
    (merged : world.loaded = (environment, none))
    (valid : (ofEnvironment environment).isValid = true)
    (named : Log.Level.ofName? (ofEnvironment environment).logLevel = some level) :
    load true world =
      { result := .ok { serial := world.created, settings := ofEnvironment environment }
        world := { world with environment, level, created := world.created + 1 }
        issued := (warnings environment ++ [(ofEnvironment environment).loadedEntry,
          (ofEnvironment environment).validatedEntry]).map world.issue } := by
  have done : (mergeDotenv world).result = .ok () := by
    rw [mergeDotenv_of_merged merged]
  rw [load, bind_apply_ok done, mergeDotenv_of_merged merged]
  simp only [read_bind, issueAll_bind, issue_bind, if_true, validate, valid, applyLevel, named,
    modify_bind, List.map_append]
  rfl

/-- A warning is of one switch and the text that it does not take. -/
theorem exists_rejected_of_mem_warnings {entry : Log.Entry}
    (member : entry ∈ warnings environment) :
    ∃ switch : Switch, ∃ text, entry = switch.rejectedEntry text := by
  have switched (switch : Switch) (listed : entry ∈ switch.warnings environment) :
      ∃ switch : Switch, ∃ text, entry = switch.rejectedEntry text := by
    unfold Switch.warnings at listed
    split at listed
    · cases listed
    · next text given =>
        split at listed
        · cases listed
        · exact ⟨switch, text, List.mem_singleton.mp listed⟩
  simp only [warnings, List.mem_append] at member
  rcases member with (member | member) | member <;> exact switched _ member

theorem level_of_mem_warnings {entry : Log.Entry} (member : entry ∈ warnings environment) :
    entry.level = .warning := by
  obtain ⟨switch, text, rfl⟩ := exists_rejected_of_mem_warnings member
  rfl

/-- The world in which entries are issued makes no difference to their level. -/
theorem filter_level_issue (world : World) (level : Log.Level) (entries : List Log.Entry) :
    (entries.map world.issue).filter (·.entry.level == level) =
      (entries.filter (·.level == level)).map world.issue :=
  List.filter_map

/-- What a load can come to. -/
inductive LoadsTo (world : World) : Bool → Outcome Instance → Prop
  | refused {checked : Bool} {environment : Environment} {reason : VariableError}
      (found : world.loaded = (environment, some reason)) :
      LoadsTo world checked
        { result := .error (.environment reason), world := { world with environment } }
  | unchecked {environment : Environment}
      (merged : world.loaded = (environment, none)) :
      LoadsTo world false
        { result := .ok { serial := world.created, settings := ofEnvironment environment }
          world := { world with environment, created := world.created + 1 }
          issued := (warnings environment ++ [(ofEnvironment environment).loadedEntry]).map
            world.issue }
  | invalid {environment : Environment}
      (merged : world.loaded = (environment, none))
      (invalid : (ofEnvironment environment).isValid = false) :
      LoadsTo world true
        { result := .error (.settings (ofEnvironment environment).invalid)
          world := { world with environment }
          issued := (warnings environment ++ [(ofEnvironment environment).loadedEntry,
            (ofEnvironment environment).invalidEntry]).map world.issue }
  | valid {environment : Environment} {level : Log.Level}
      (merged : world.loaded = (environment, none))
      (valid : (ofEnvironment environment).isValid = true)
      (named : Log.Level.ofName? (ofEnvironment environment).logLevel = some level) :
      LoadsTo world true
        { result := .ok { serial := world.created, settings := ofEnvironment environment }
          world := { world with environment, level, created := world.created + 1 }
          issued := (warnings environment ++ [(ofEnvironment environment).loadedEntry,
            (ofEnvironment environment).validatedEntry]).map world.issue }

theorem loadsTo_load (checked : Bool) (world : World) :
    LoadsTo world checked (load checked world) := by
  rcases found : world.loaded with ⟨environment, none | reason⟩
  · cases checked with
    | false =>
        rw [load_unchecked found]
        exact .unchecked found
    | true =>
        cases valid : (ofEnvironment environment).isValid with
        | false =>
            rw [load_of_invalid found valid]
            exact .invalid found valid
        | true =>
            obtain ⟨level, named, _⟩ := exists_level_of_isValid valid
            rw [load_of_valid found valid named]
            exact .valid found valid named
  · rw [load_of_refused found]
    exact .refused found

theorem LoadsTo.shared_eq {outcome : Outcome Instance} (loads : LoadsTo world checked outcome) :
    outcome.world.shared = world.shared := by
  cases loads <;> rfl

/-- A load calls settings invalid by the one code that there is. -/
theorem LoadsTo.code_eq {outcome : Outcome Instance} {error : SettingsError}
    (loads : LoadsTo world checked outcome) (failed : outcome.result = .error (.settings error)) :
    error.code = "DEV-040" := by
  cases loads with
  | invalid merged invalid =>
      cases failed
      rfl
  | _ => cases failed

theorem LoadsTo.environment_eq {outcome : Outcome Instance}
    (loads : LoadsTo world checked outcome) :
    outcome.world.environment = world.loaded.1 := by
  cases loads with
  | refused found => rw [found]
  | unchecked merged => rw [merged]
  | invalid merged => rw [merged]
  | valid merged => rw [merged]

/-- The settings that a load would read now, unless the file is refused. -/
def pending? (world : World) : Option Settings :=
  match world.loaded with
  | (environment, none) => some (ofEnvironment environment)
  | (_, some _) => none

theorem load_result_of_pending {settings : Settings} (checked : Bool)
    (pending : pending? world = some settings)
    (accepted : checked = true → settings.isValid = true) :
    (load checked world).result = .ok { serial := world.created, settings } := by
  unfold pending? at pending
  split at pending
  · rename_i environment merged
    cases pending
    cases checked with
    | false => rw [load_unchecked merged]
    | true =>
        obtain ⟨level, named, _⟩ := exists_level_of_isValid (accepted rfl)
        rw [load_of_valid merged (accepted rfl) named]
  · cases pending

theorem load_result_of_invalid {settings : Settings} (pending : pending? world = some settings)
    (invalid : settings.isValid = false) :
    (load true world).result = .error (.settings settings.invalid) := by
  unfold pending? at pending
  split at pending
  · rename_i environment merged
    cases pending
    rw [load_of_invalid merged invalid]
  · cases pending

theorem load_result_of_not_pending (checked : Bool) (refused : pending? world = none) :
    ∃ reason, (load checked world).result = .error (.environment reason) := by
  unfold pending? at refused
  split at refused
  · cases refused
  · rename_i environment reason found
    exact ⟨reason, by rw [load_of_refused found]⟩

theorem load_shared (checked : Bool) (world : World) :
    (load checked world).world.shared = world.shared :=
  (loadsTo_load checked world).shared_eq

theorem shared_of_some {current : Instance} (present : world.shared = some current) :
    shared checked world = { result := .ok current, world } := by
  simp only [shared, read_bind, present]
  rfl

theorem shared_of_error {fault : Fault} (absent : world.shared = none)
    (failed : (load checked world).result = .error fault) :
    shared checked world = load checked world := by
  simp only [shared, read_bind, absent]
  rw [bind_apply_error failed, ← failed]

theorem shared_of_ok {loaded : Instance} (absent : world.shared = none)
    (done : (load checked world).result = .ok loaded) :
    shared checked world =
      { load checked world with
        world := { (load checked world).world with shared := some loaded } } := by
  simp only [shared, read_bind, absent]
  rw [bind_apply_ok done]
  simp [done]

end DataGate.Settings
